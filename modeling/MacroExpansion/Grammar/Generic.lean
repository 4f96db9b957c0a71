import MacroExpansion.Grammar.Attribute

/-!
# Generic arguments and parameters

What stands in angle brackets. Lifetimes are handed on in front of all else, whatever the order they
were written in. Parameters without a bound lose their colon; no parameters and no conditions leave
no trace.
-/

namespace MacroExpansion

namespace Grammar

open TokenReader

/-- Is a literal or a block ahead? -/
def seesConstant (tokens : Tokens) : Bool :=
  tokens.seesSignedLiteral || tokens.seesGroup .brace

/-- A constant as a generic argument: a literal, a name or a block. -/
def constArgument (g : Grammar) : TokenReader Tokens := do
  let here ← ahead
  if here.seesSignedLiteral then signedLiteral
  else if here.seesName then return [← name]
  else if here.seesGroup .brace then bodyTokens g
  else expectedOneOf ["literal", "identifier", "curly braces"]

/-- A sum of bounds that `stop` may end before each of them. -/
def boundsUntil (g : Grammar) (stop : Tokens → Bool) : TokenReader Tokens :=
  separatedBy "+" stop (fun here => !here.sees "+") g.bound

/-- Behind the name of an associated item: the type or constant it equals, or its bounds. -/
def constraint (g : Grammar) : TokenReader Tokens := do
  let here ← ahead
  if here.sees "=" then
    let equals ← operator "="
    if seesConstant (← ahead) then return equals ++ (← constArgument g)
    else return equals ++ (← g.type true)
  else if here.sees ":" then
    return (← operator ":") ++ (← boundsUntil g fun tokens => tokens.sees "," || tokens.sees ">")
  else pure []

/-- An argument or a parameter in angle brackets, and whether it is a lifetime. -/
structure AngleItem where
  tokens : Tokens
  isLifetime : Bool

/-- A generic argument. -/
def genericArgument (g : Grammar) : TokenReader AngleItem := do
  let here ← ahead
  if here.seesLifetime && !here.second.sees "+" then return ⟨← lifetime, true⟩
  else if seesConstant here then return ⟨← constArgument g, false⟩
  else
    let type ← g.typeCode true true
    match type.form with
    | .path path =>
      if path.isLocal then return ⟨type.tokens ++ (← constraint g), false⟩
      else return ⟨type.tokens, false⟩
    | _ => return ⟨type.tokens, false⟩

/-- Parts in angle brackets with the commas behind them. -/
def angleItems (item : TokenReader AngleItem) : TokenReader (List (AngleItem × Tokens)) := do
  go ((← ahead).size + 1)
where
  /-- Read at most the given number of parts. -/
  go : Nat → TokenReader (List (AngleItem × Tokens))
    | 0 => pure []
    | bound + 1 => do
      if (← ahead).sees ">" then pure []
      else
        let first ← item
        if (← ahead).sees ">" then return [(first, [])]
        else
          let comma ← operator ","
          return (first, comma) :: (← go bound)

/-- Lifetimes come first. A comma is added where the last of them had none. -/
def lifetimesFirst (items : List (AngleItem × Tokens)) : Tokens :=
  let lifetimes := items.filter (·.1.isLifetime)
  let others := items.filter (!·.1.isLifetime)
  let bare := lifetimes.getLast?.any (·.2.isEmpty)
  let comma := if bare && !others.isEmpty then Tokens.symbol "," else []
  let print (items : List (AngleItem × Tokens)) : Tokens :=
    items.flatMap fun (item, comma) => item.tokens ++ comma
  print lifetimes ++ comma ++ print others

/-- Generic arguments in angle brackets. -/
def angleArguments (g : Grammar) : TokenReader Tokens := do
  let opening ← operator "<"
  let arguments ← angleItems (genericArgument g)
  return opening ++ lifetimesFirst arguments ++ (← operator ">")

/-- Generic arguments in angle brackets, with the separator in front of them if there is one. -/
def genericArguments (g : Grammar) : TokenReader Tokens := do
  let separator ← operator? "::"
  return separator ++ (← angleArguments g)

/-- What bounds a lifetime: other lifetimes. -/
def lifetimeBounds (stop : Tokens → Bool) : TokenReader Tokens :=
  separatedBy "+" stop (fun here => !here.sees "+") lifetime

/-- A colon and bounds, or nothing if no bound follows the colon. -/
def boundsBehindColon (bounds : TokenReader Tokens) : TokenReader Tokens :=
  ifAhead (·.sees ":") do
    let colon ← operator ":"
    let bounds ← bounds
    return if bounds.isEmpty then [] else colon ++ bounds

/-- A lifetime as a parameter. -/
def lifetimeParameter : TokenReader Tokens := do
  let life ← lifetime
  return life ++ (← boundsBehindColon (lifetimeBounds fun here =>
    here.isEmpty || here.sees "," || here.sees ">"))

/-- A type as a parameter. -/
def typeParameter (g : Grammar) : TokenReader Tokens := do
  let parameter ← name
  let bounds ← boundsBehindColon (boundsUntil g fun here => here.seesAny [",", ">", "="])
  let default ← ifAhead (·.sees "=") do return (← operator "=") ++ (← g.type true)
  return parameter :: bounds ++ default

/-- A constant as a parameter. -/
def constParameter (g : Grammar) : TokenReader Tokens := do
  let head ← keyword "const"
  let parameter ← name
  let colon ← operator ":"
  let type ← g.type true
  let default ← ifAhead (·.sees "=") do return (← operator "=") ++ (← constArgument g)
  return head ++ parameter :: colon ++ type ++ default

/-- A parameter bound by `for`. -/
def boundParameter (g : Grammar) : TokenReader Tokens := do
  let attributes ← outerAttributes g
  let here ← ahead
  if here.seesName then return attributes ++ (← typeParameter g)
  else if here.seesLifetime then return attributes ++ (← lifetimeParameter)
  else if here.seesWord "const" then return attributes ++ (← constParameter g)
  else expectedOneOf ["identifier", "lifetime", "`const`"]

/-- An optional binder, such as `for<'a>`. -/
def binder (g : Grammar) : TokenReader Tokens :=
  ifAhead (·.seesWord "for") do
    let head ← keyword "for"
    let opening ← operator "<"
    let parameters ← separated "," (·.sees ">") (boundParameter g)
    return head ++ opening ++ parameters ++ (← operator ">")

/-- A generic parameter of an item. -/
def genericParameter (g : Grammar) : TokenReader AngleItem := do
  let attributes ← outerAttributes g
  let here ← ahead
  if here.seesLifetime then return ⟨attributes ++ (← lifetimeParameter), true⟩
  else if here.seesName then return ⟨attributes ++ (← typeParameter g), false⟩
  else if here.seesWord "const" then return ⟨attributes ++ (← constParameter g), false⟩
  else if here.seesWord "_" then return ⟨attributes ++ [← anyWord], false⟩
  else expectedOneOf ["lifetime", "identifier", "`const`"]

/-- Generic parameters in angle brackets, and whether there were brackets. -/
def generics? (g : Grammar) : TokenReader (Tokens × Bool) := do
  if (← ahead).sees "<" then
    let opening ← operator "<"
    let parameters ← angleItems (genericParameter g)
    let closing ← operator ">"
    if parameters.isEmpty then return ([], true)
    else return (opening ++ lifetimesFirst parameters ++ closing, true)
  else return ([], false)

/-- Generic parameters in angle brackets. -/
def generics (g : Grammar) : TokenReader Tokens := do
  return (← generics? g).1

/-- Can no further condition follow in a `where`? -/
def whereStops (tokens : Tokens) : Bool :=
  tokens.isEmpty || tokens.seesGroup .brace || tokens.seesAny [",", ";", "="] || tokens.seesColon

/-- A condition on types or lifetimes. -/
def wherePredicate (g : Grammar) : TokenReader Tokens := do
  let here ← ahead
  if here.seesLifetime && here.second.sees ":" then
    let life ← lifetime
    let colon ← operator ":"
    return life ++ colon ++ (← lifetimeBounds fun here => whereStops here || here.sees ":")
  else
    let lifetimes ← binder g
    let type ← g.type true
    let colon ← operator ":"
    return lifetimes ++ type ++ colon ++ (← boundsUntil g whereStops)

/-- Conditions behind `where`, and whether the word was there. -/
def whereClause? (g : Grammar) : TokenReader (Tokens × Bool) := do
  if (← ahead).seesWord "where" then
    let head ← keyword "where"
    if (← ahead).seesParameters then failWith .whereParameters
    else
      let predicates ← separatedBy "," whereStops (fun here => !here.sees ",") (wherePredicate g)
      return (if predicates.isEmpty then [] else head ++ predicates, true)
  else return ([], false)

/-- Conditions behind `where`. -/
def whereClause (g : Grammar) : TokenReader Tokens := do
  return (← whereClause? g).1

end Grammar

end MacroExpansion
