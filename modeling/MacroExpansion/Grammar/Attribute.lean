import MacroExpansion.Grammar.Basic

/-!
# Attributes and bodies

Paths without arguments, attributes, which are named by them, and statements in braces, which may
begin with attributes about the whole.
-/

namespace MacroExpansion

namespace Grammar

open TokenReader

/-- May a path without arguments go on with the word ahead? -/
def seesPlainStep (tokens : Tokens) : Bool :=
  tokens.seesName || tokens.seesWords ["super", "self", "Self", "crate"]

/-- The steps of a path without arguments, the first behind the given separator. -/
def plainSteps (separator : Tokens) : Nat → TokenReader (List PathSegment)
  | 0 => pure []
  | bound + 1 => do
    let step ← anyIdent
    if (← ahead).sees "::" then
      let next ← operator "::"
      if seesPlainStep (← ahead) then
        return ⟨separator, step, []⟩ :: (← plainSteps next bound)
      else expected "path segment after `::`"
    else return [⟨separator, step, []⟩]

/-- A path without arguments, as macros and attributes are named by. -/
def plainPath : TokenReader Path := do
  let leading ← operator? "::"
  let here ← ahead
  if seesPlainStep here then return ⟨[], ← plainSteps leading here.size⟩
  else
    let first ← ident
    return ⟨[], [⟨leading, first, []⟩]⟩

/-- What an attribute is named by. -/
def attributeName : TokenReader Tokens := do
  if (← ahead).seesWord "unsafe" then keyword "unsafe" else return (← plainPath).tokens

/-- The content of an attribute: a path, and arguments that stay as they are or a value. -/
def attributeContent (g : Grammar) : TokenReader Tokens := do
  let path ← attributeName
  let here ← ahead
  if here.seesGroup .parenthesis || here.seesGroup .bracket || here.seesGroup .brace then
    return path ++ [← anyGroup]
  else if here.sees "=" && !here.sees "==" && !here.sees "=>" then
    let equals ← operator "="
    match ← succeeds signedLiteral with
    | some (value, []) =>
      resume []
      return path ++ equals ++ value
    | _ =>
      let here ← ahead
      if here.sees "#" && here.second.seesGroup .bracket then failWith .nestedAttribute
      else return path ++ equals ++ (← g.expr true).tokens
  else return path

/-- One attribute about what follows. -/
def outerAttribute (g : Grammar) : TokenReader Tokens := do
  let mark ← operator "#"
  return mark ++ (← grouped .bracket (attributeContent g))

/-- Attributes about what follows. -/
def outerAttributes (g : Grammar) : TokenReader Tokens :=
  repeatWhile (·.sees "#") (outerAttribute g)

/-- Attributes about what contains them. -/
def innerAttributes (g : Grammar) : TokenReader Tokens :=
  repeatWhile (fun tokens => tokens.sees "#" && tokens.second.sees "!") do
    let mark ← operator "#"
    let bang ← operator "!"
    return mark ++ bang ++ (← grouped .bracket (attributeContent g))

/-- Attributes of an expression. Those inside an invisible group belong to the group's content. -/
def exprAttributes (g : Grammar) : TokenReader Tokens :=
  repeatWhile (fun tokens => !tokens.seesInvisible && tokens.sees "#") (outerAttribute g)

/-- Statements in braces. -/
def block (g : Grammar) : TokenReader Block := do
  let (statements, span) ← group .brace g.statements
  return ⟨statements, span⟩

/-- Statements in braces, as tokens. -/
def blockTokens (g : Grammar) : TokenReader Tokens := do
  return (← block g).tokens

/-- Statements in braces behind attributes about them. -/
def attributedBlock (g : Grammar) : TokenReader ((Tokens × List Stmt) × Span) :=
  group .brace do
    let attributes ← innerAttributes g
    return (attributes, ← g.statements)

/-- Statements in braces behind attributes about them, as tokens. -/
def bodyTokens (g : Grammar) : TokenReader Tokens := do
  let ((attributes, statements), span) ← attributedBlock g
  return [.group .brace (attributes ++ statements.flatMap Stmt.tokens) span]

end Grammar

end MacroExpansion
