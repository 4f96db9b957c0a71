import MacroExpansion.Grammar.Type

/-!
# Patterns

Patterns are recognised and handed on as tokens. Alternatives divided by bars are read only where a
bar cannot mean anything else.
-/

namespace MacroExpansion

namespace Grammar

open TokenReader

/-- Does a bar that divides alternatives follow? -/
def seesAlternative (tokens : Tokens) : Bool :=
  tokens.sees "|" && !tokens.sees "||" && !tokens.sees "|="

/-- The limits of a range. Three dots are an old spelling of an inclusive one. -/
def rangeLimits : TokenReader Tokens := do
  let here ← ahead
  if here.sees "..=" then operator "..="
  else if here.sees "..." then
    let dots ← operator "..."
    return dots.dropLast ++ (dots.getLast?.map fun last =>
      Token.punct '=' .alone last.span).toList
  else operator ".."

/-- Does a range in a pattern lack its end? -/
def rangeIsOpen (tokens : Tokens) : Bool :=
  tokens.isEmpty || tokens.seesAny ["|", "=", ",", ";"] || tokens.seesColon ||
    tokens.seesWord "if"

/-- A constant block. -/
def constBlock (g : Grammar) : TokenReader Tokens := do
  let head ← keyword "const"
  return head ++ (← bodyTokens g)

/-- An end of a range in a pattern: a literal, a path or a constant block. -/
def rangeEnd (g : Grammar) : TokenReader Tokens := do
  let here ← ahead
  if rangeIsOpen here then pure []
  else if here.seesSignedLiteral then signedLiteral
  else if seesPath here then return (← anyPath g false).tokens
  else if here.seesWord "const" then constBlock g
  else
    expectedOneOf ["literal", "identifier", "`::`", "`<`", "`self`", "`Self`", "`super`",
      "`crate`", "`const`"]

/-- A range behind its start. One that includes its end must have it. -/
def rangeFrom (g : Grammar) (start : Tokens) : TokenReader Pattern := do
  let limits ← rangeLimits
  let stop ← rangeEnd g
  if stop.isEmpty && limits.length == 3 then expected "range upper bound"
  else
    let gap := if start.isEmpty || stop.isEmpty then some (Tokens.extent limits) else none
    return ⟨start ++ limits ++ stop, .range gap⟩

/-- A literal or a range that begins with one. -/
def literalPattern (g : Grammar) : TokenReader Pattern := do
  let start ← rangeEnd g
  if (← ahead).sees ".." then rangeFrom g start else return .plain start

/-- A range without a start, or two dots for what is left out. -/
def openPattern (g : Grammar) : TokenReader Pattern := do
  let range ← rangeFrom g []
  if range.tokens.length == 2 then return .plain range.tokens else return range

/-- The first position that is too large. -/
def positionLimit : Nat := 4294967296

/-- The position that a literal at `place` writes, spelled in the plainest way and put at `span`. -/
def position (isSigned : Bool) (text : List Char) (place span : Span) : TokenReader Token :=
  if Literal.isInteger (String.ofList text) then
    match Literal.value? text with
    | some n =>
      if isSigned then failAt .signedMember place
      else if n < positionLimit then pure (.literal (String.ofList (Nat.toDigits 10 n)) span)
      else failAt .largeMember place
    | none => failAt .suffixedMember place
  else failAt (.missing "integer literal") place

/-- A number, its sign, and the place of both. -/
def signedNumber : TokenReader (Bool × String × Span) := do
  let number ← signedLiteral
  let place := Tokens.extent number
  match number with
  | [.literal text _] => return (false, text, place)
  | [_, .literal text _] => return (true, text, place)
  | _ => expected "integer literal"

/-- The name or the position of a field. -/
def member : TokenReader Token := do
  let here ← ahead
  if here.seesName then name
  else if here.seesInteger || (here.sees "-" && here.second.seesInteger) then
    let (isSigned, text, place) ← signedNumber
    position isSigned text.toList place place
  else expected "identifier or integer"

/-- Is a field given by its name? -/
def isNamed : Token → Bool
  | .ident _ _ => true
  | _ => false

/-- A field of a structure pattern behind its attributes. -/
def fieldPattern (g : Grammar) : TokenReader Tokens := do
  let start ← ahead
  let boxed ← keyword? "box"
  let reference ← keyword? "ref"
  let access ← keyword? "mut"
  let modifiers := reference ++ access
  if !boxed.isEmpty then
    let _ ← name
    taken start
  else if !modifiers.isEmpty then return modifiers ++ [← name]
  else
    let field ← member
    if (← ahead).sees ":" || !isNamed field then
      let colon ← operator ":"
      return field :: colon ++ (← g.pattern).tokens
    else return [field]

/-- The fields of a structure pattern, and two dots for those left out. -/
def fieldPatterns (g : Grammar) : TokenReader Tokens := do
  go ((← ahead).size + 1)
where
  /-- Read at most the given number of fields. -/
  go : Nat → TokenReader Tokens
    | 0 => pure []
    | bound + 1 => do
      if ← atEnd then pure []
      else
        let attributes ← outerAttributes g
        if (← ahead).sees ".." then return attributes ++ (← operator "..")
        else
          let field ← fieldPattern g
          if ← atEnd then return attributes ++ field
          else
            let comma ← operator ","
            return attributes ++ field ++ comma ++ (← go bound)

/-- Patterns with commas in between, as in a tuple. -/
def patternList (g : Grammar) : TokenReader Tokens :=
  separated "," ended do return (← g.pattern).tokens

/-- A pattern in a slice, which is no range without a start or an end. -/
def slicePattern (g : Grammar) : TokenReader Tokens := do
  let pattern ← g.pattern
  match pattern.form with
  | .range (some gap) => failAt .openRange gap
  | _ => return pattern.tokens

/-- A pattern that begins with a path. -/
def pathPattern (g : Grammar) : TokenReader Pattern := do
  let path ← anyPath g false
  let here ← ahead
  if path.isPlain && here.sees "!" && !here.sees "!=" then
    let bang ← operator "!"
    return .plain (path.tokens ++ bang ++ [← anyGroup])
  else if here.seesGroup .brace then
    return .plain (path.tokens ++ (← grouped .brace (fieldPatterns g)))
  else if here.seesGroup .parenthesis then
    return .plain (path.tokens ++ (← grouped .parenthesis (patternList g)))
  else if here.sees ".." then rangeFrom g path.tokens
  else return .plain path.tokens

/-- A name that is bound, and the pattern its value must match. -/
def namePattern (g : Grammar) : TokenReader Tokens := do
  let reference ← keyword? "ref"
  let access ← keyword? "mut"
  let bound ← if (← ahead).seesWord "self" then anyWord else name
  let inner ← ifAhead (·.sees "@") do return (← operator "@") ++ (← g.single).tokens
  return reference ++ access ++ bound :: inner

/-- A reference in a pattern. -/
def referencePattern (g : Grammar) : TokenReader Tokens := do
  let mark ← operator "&"
  let access ← keyword? "mut"
  return mark ++ access ++ (← g.single).tokens

/-- A pattern for what is boxed, kept the way it was written. -/
def boxPattern (g : Grammar) : TokenReader Pattern := do
  let tokens ← asWritten do
    let _ ← keyword "box"
    g.single
  return ⟨tokens, .untouched⟩

/-- Does a pattern begin with a path here, and not with a name to bind? -/
def seesPathPattern (tokens : Tokens) : Bool :=
  let next := tokens.second
  (tokens.seesName && (next.sees "::" || next.sees "!" || next.seesGroup .brace ||
      next.seesGroup .parenthesis || next.sees "..")) ||
    (tokens.seesWord "self" && next.sees "::") || tokens.sees "::" || tokens.sees "<" ||
    tokens.seesWords ["Self", "super", "crate"]

/-- The forms a pattern may begin with, as an error lists them: constants are listed twice, as a
literal and as a block. Two dots are no news where three are ahead. -/
def patternForms (tokens : Tokens) : List String :=
  ["identifier", "`::`", "`<`", "`_`", "literal", "`const`", "`ref`", "`mut`", "`&`",
    "parentheses", "square brackets"] ++ (if tokens.sees ".." then [] else ["`..`"]) ++
    ["`const`"]

/-- A pattern without alternatives. -/
def singleRule (g : Grammar) : TokenReader Pattern := do
  let here ← ahead
  if seesPathPattern here then pathPattern g
  else if here.seesWord "_" then return .plain (← keyword "_")
  else if here.seesWord "box" then boxPattern g
  else if here.sees "-" || here.seesLiteral || here.seesWord "const" then literalPattern g
  else if here.seesName || here.seesWords ["ref", "mut", "self"] then
    return .plain (← namePattern g)
  else if here.sees "&" then return .plain (← referencePattern g)
  else if here.seesGroup .parenthesis then
    return .plain (← grouped .parenthesis (patternList g))
  else if here.seesGroup .bracket then
    return .plain (← grouped .bracket (separated "," ended (slicePattern g)))
  else if here.sees ".." && !here.sees "..." then openPattern g
  else expectedOneOf (patternForms here)

/-- A pattern with its alternatives. -/
def patternRule (g : Grammar) : TokenReader Pattern := do
  let leading ← operator? "|"
  let first ← g.single
  let more ← repeatWhile seesAlternative do return (← operator "|") ++ (← g.single).tokens
  if leading.isEmpty && more.isEmpty then return first
  else return .plain (leading ++ first.tokens ++ more)

end Grammar

end MacroExpansion
