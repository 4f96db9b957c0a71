import MacroExpansion.Grammar.Generic

/-!
# Paths

A path in a type takes generic arguments right behind a name; a path in an expression needs `::` in
front of them, since `<` alone would be a comparison.
-/

namespace MacroExpansion

namespace Grammar

open TokenReader

/-- The words that are steps of a path though they are reserved. -/
def placeWords : List String := ["super", "self", "crate", "try"]

/-- One step of a path behind the given separator. -/
def pathSegment (g : Grammar) (inType : Bool) (separator : Tokens) : TokenReader PathSegment := do
  let here ← ahead
  if here.seesWords placeWords then return ⟨separator, ← anyIdent, []⟩
  let step ← if here.seesWord "Self" then anyIdent else ident
  let here ← ahead
  if (inType && here.sees "<" && !here.sees "<=" && !here.sees "<<=") ||
      (here.sees "::" && here.third.sees "<") then
    return ⟨separator, step, ← genericArguments g⟩
  else return ⟨separator, step, []⟩

/-- Does a path go on here? Parentheses behind the separator are not its business. -/
def pathGoesOn (tokens : Tokens) : Bool :=
  tokens.sees "::" && !tokens.third.seesGroup .parenthesis

/-- The steps of a path behind those already read. -/
def pathRest (g : Grammar) (inType : Bool) : TokenReader (List PathSegment) := do
  go ((← ahead).size)
where
  /-- Read at most the given number of steps. -/
  go : Nat → TokenReader (List PathSegment)
    | 0 => pure []
    | bound + 1 => do
      if pathGoesOn (← ahead) then
        let separator ← operator "::"
        let segment ← pathSegment g inType separator
        return segment :: (← go bound)
      else pure []

/-- A path that is not relative to a type. -/
def simplePath (g : Grammar) (inType : Bool) : TokenReader Path := do
  let separator ← operator? "::"
  let first ← pathSegment g inType separator
  return ⟨[], first :: (← pathRest g inType)⟩

/-- The steps of a path relative to a type: they go on whatever follows the separator. -/
def relativeSteps (g : Grammar) (inType : Bool) : TokenReader (List PathSegment) := do
  go ((← ahead).size + 1)
where
  /-- Read at most the given number of steps. -/
  go : Nat → TokenReader (List PathSegment)
    | 0 => pure []
    | bound + 1 => do
      let separator ← operator "::"
      let segment ← pathSegment g inType separator
      if (← ahead).sees "::" then return segment :: (← go bound) else return [segment]

/-- A path, possibly relative to a type in angle brackets. -/
def anyPath (g : Grammar) (inType : Bool) : TokenReader Path := do
  if (← ahead).sees "<" then
    let opening ← operator "<"
    let self ← g.type true
    let trait ← ifAhead (·.seesWord "as") do
      return (← keyword "as") ++ (← simplePath g true).tokens
    let closing ← operator ">"
    return ⟨opening ++ self ++ trait ++ closing, ← relativeSteps g inType⟩
  else simplePath g inType

/-- An optional arrow, the return type behind it as tokens, and that type. -/
def arrowType (g : Grammar) (plus : Bool) : TokenReader (Tokens × Option TypeCode) := do
  if (← ahead).sees "->" then
    let arrow ← operator "->"
    let type ← g.typeCode plus true
    return (arrow ++ type.tokens, some type)
  else return ([], none)

/-- An optional arrow and a return type. -/
def returnType (g : Grammar) (plus : Bool) : TokenReader Tokens := do
  return (← arrowType g plus).1

/-- The arguments of a function trait: types in parentheses and what is returned. -/
def functionArguments (g : Grammar) : TokenReader (Tokens × Option TypeCode) := do
  let inputs ← grouped .parenthesis (separated "," ended (g.type true))
  let (output, type) ← arrowType g false
  return (inputs ++ output, type)

/-- Are there no arguments, or empty angle brackets only? -/
def lacksArguments (arguments : Tokens) : Bool :=
  let inner := if arguments.sees "::" then arguments.third else arguments
  inner.isEmpty || (inner.sees "<" && inner.second.sees ">")

/-- Does a path without arguments take those of a function here? -/
def seesCall (path : Path) (tokens : Tokens) : Bool :=
  lacksArguments path.lastArguments &&
    (tokens.seesGroup .parenthesis ||
      (tokens.sees "::" && tokens.third.seesGroup .parenthesis))

/-- The path with the arguments of a function for its last step, and the type that is returned. A
separator in front of them is dropped. -/
def pathCall (g : Grammar) (path : Path) : TokenReader (Path × Option TypeCode) := do
  let _ ← operator? "::"
  let (arguments, output) ← functionArguments g
  return (path.withArguments arguments, output)

end Grammar

end MacroExpansion
