import MacroExpansion.Grammar.Function

/-!
# Structures, enumerations and unions

Definitions of types by their fields. Fields have names or positions, and conditions on parameters
stand in front of named fields and behind positional ones.
-/

namespace MacroExpansion

namespace Grammar

open TokenReader

/-- Does a field without a name hold fields of its own? -/
def seesFields (tokens : Tokens) : Bool :=
  tokens.seesWord "struct" || (tokens.seesWord "union" && tokens.second.seesGroup .brace)

/-- A field with a name. Fields may be nested in a field without one; they are kept as written. -/
def namedField (g : Grammar) (fields : TokenReader Tokens) : TokenReader Tokens := do
  let attributes ← outerAttributes g
  let access ← visibility
  let nameless := (← ahead).seesWord "_"
  let field ← if nameless then anyWord else name
  let colon ← operator ":"
  let start := attributes ++ access ++ field :: colon
  if nameless && seesFields (← ahead) then
    return start ++ (← asWritten do
      let _ ← anyWord
      fields)
  else return start ++ (← g.type true)

/-- Fields in braces, nested at most so deep. -/
def namedFieldsWithin (g : Grammar) : Nat → TokenReader Tokens
  | 0 => expected "curly braces"
  | depth + 1 =>
    grouped .brace (separated "," ended (namedField g (namedFieldsWithin g depth)))

/-- Fields in braces. -/
def namedFields (g : Grammar) : TokenReader Tokens := do
  namedFieldsWithin g ((← ahead).size + 1)

/-- A field with a position. -/
def positionalField (g : Grammar) : TokenReader Tokens := do
  let attributes ← outerAttributes g
  let access ← visibility
  return attributes ++ access ++ (← g.type true)

/-- Fields in parentheses. -/
def positionalFields (g : Grammar) : TokenReader Tokens :=
  grouped .parenthesis (separated "," ended (positionalField g))

/-- The end of a structure with positions: conditions and a semicolon. -/
def positionalEnd (g : Grammar) : TokenReader Tokens := do
  let (conditions, found) ← whereClause? g
  if (← ahead).sees ";" then return conditions ++ (← operator ";")
  else expectedOneOf ((if found then [] else ["`where`"]) ++ ["`;`"])

/-- A structure. -/
def structItem (g : Grammar) : TokenReader Tokens := do
  let access ← visibility
  let head ← keyword "struct"
  let type ← name
  let generic ← generics g
  let (conditions, found) ← whereClause? g
  let start := access ++ head ++ type :: generic
  let here ← ahead
  if !found && here.seesGroup .parenthesis then
    let fields ← positionalFields g
    return start ++ fields ++ (← positionalEnd g)
  else if here.seesGroup .brace then return start ++ conditions ++ (← namedFields g)
  else if here.sees ";" then return start ++ conditions ++ (← operator ";")
  else
    expectedOneOf ((if found then [] else ["`where`", "parentheses"]) ++ ["curly braces", "`;`"])

/-- A variant of an enumeration. Who may use it is not its business, and is dropped. -/
def variant (g : Grammar) : TokenReader Tokens := do
  let attributes ← outerAttributes g
  let _ ← visibility
  let constructor ← name
  let here ← ahead
  let fields ←
    if here.seesGroup .brace then namedFields g
    else if here.seesGroup .parenthesis then positionalFields g
    else pure []
  let value ← ifAhead (·.sees "=") do return (← operator "=") ++ (← g.value)
  return attributes ++ constructor :: fields ++ value

/-- An enumeration. -/
def enumItem (g : Grammar) : TokenReader Tokens := do
  let access ← visibility
  let head ← keyword "enum"
  let type ← name
  let generic ← generics g
  let conditions ← whereClause g
  let variants ← grouped .brace (separated "," ended (variant g))
  return access ++ head ++ type :: generic ++ conditions ++ variants

/-- A union. -/
def unionItem (g : Grammar) : TokenReader Tokens := do
  let access ← visibility
  let head ← keyword "union"
  let type ← name
  let generic ← generics g
  let conditions ← whereClause g
  return access ++ head ++ type :: generic ++ conditions ++ (← namedFields g)

end Grammar

end MacroExpansion
