import MacroExpansion.Text.IdentStart
import MacroExpansion.Text.IdentExtend

/-!
# Identifiers

An identifier opens with a letter or an underscore and goes on with letters, digits and marks, in
the sense of the Unicode properties for identifiers. ASCII is decided without looking at the tables,
which are those of Unicode 17.0.
-/

namespace MacroExpansion

namespace Identifier

/-- May the character open an identifier? -/
def isStart (c : Char) : Bool :=
  if c.toNat < 128 then c.isAlpha || c == '_' else IdentStart.ranges.has c

/-- May the character stand inside an identifier? -/
def isContinue (c : Char) : Bool :=
  if c.toNat < 128 then c.isAlphanum || c == '_'
  else IdentStart.ranges.has c || IdentExtend.ranges.has c

/-- Is the text one identifier, from its first to its last character? -/
def isIdentifier : List Char → Bool
  | [] => false
  | c :: cs => isStart c && cs.all isContinue

/-- Split off the identifier a text begins with, if it begins with one. -/
def split? : List Char → Option (List Char × List Char)
  | [] => none
  | c :: cs =>
    if isStart c then some (c :: cs.takeWhile isContinue, cs.dropWhile isContinue) else none

/-- Words of the language that never serve as names. -/
def reserved : List String := [
  "_", "abstract", "as", "async", "await", "become", "box", "break", "const", "continue", "crate",
  "do", "dyn", "else", "enum", "extern", "false", "final", "fn", "for", "if", "impl", "in", "let",
  "loop", "macro", "match", "mod", "move", "mut", "override", "priv", "pub", "ref", "return",
  "Self", "self", "static", "struct", "super", "trait", "true", "try", "type", "typeof", "unsafe",
  "unsized", "use", "virtual", "where", "while", "yield"]

/-- May the text be used as a name? -/
def isName (text : String) : Bool :=
  !reserved.contains text

end Identifier

end MacroExpansion
