import MacroExpansion.Token.Basic

/-!
# Tokens as text

Tokens are printed with one space between them, except after joint punctuation. Round and square
groups hug their content; braces keep a space on either side of it. An invisible group prints as its
content alone.
-/

namespace MacroExpansion

namespace Delimiter

/-- What is printed in front of a group. -/
def opening : Delimiter → String
  | parenthesis => "("
  | brace => "\x7b "
  | bracket => "["
  | invisible => ""

/-- What is printed behind a group, `empty` or not. -/
def closing (empty : Bool) : Delimiter → String
  | parenthesis => ")"
  | brace => if empty then "\x7d" else " \x7d"
  | bracket => "]"
  | invisible => ""

end Delimiter

mutual

/-- The text of one token. -/
def Token.render : Token → String
  | .ident text _ => text
  | .punct c _ _ => String.singleton c
  | .literal text _ => text
  | .group delimiter inner _ =>
    delimiter.opening ++ Tokens.render inner ++ delimiter.closing inner.isEmpty

/-- The text of a sequence of tokens. -/
def Tokens.render : Tokens → String
  | [] => ""
  | token :: rest =>
    token.render ++ (if rest.isEmpty || token.isJoint then "" else " ") ++ Tokens.render rest

end

end MacroExpansion
