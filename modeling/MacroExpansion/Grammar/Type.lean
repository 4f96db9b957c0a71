import MacroExpansion.Grammar.Path

/-!
# Types

Types are recognised and handed on as tokens. A sum of bounds such as `A + B` is a type of its own
only where nothing else could claim the plus sign.

A bound on a type is a lifetime, a trait, or a list of what is captured. A constant trait is kept
the way it was written.
-/

namespace MacroExpansion

namespace Grammar

open TokenReader

/-- What a bound is. -/
inductive BoundForm where
  | trait
  | lifetime
  /-- A list of what is captured. -/
  | capture
  /-- A constant trait. -/
  | constant
deriving DecidableEq, Repr

/-- A bound as it was read. -/
structure Bound where
  tokens : Tokens
  form : BoundForm
  /-- Does it end with a path that generic arguments could be added to? -/
  endsBare : Bool

/-- Does a path, with what it returns if it is a function's, end with a bare step? -/
def endsBare (path : Path) (output : Option TypeCode) : Bool :=
  match output with
  | some type => type.endsBare
  | none => path.lastArguments.isEmpty

/-- The mark of a constant trait, which is not allowed everywhere. -/
def constMark (allowed : Bool) : TokenReader Tokens := do
  let here ← ahead
  if here.seesGroup .bracket then
    let (word, span) ← group .bracket (keyword "const")
    if allowed then return [.group .bracket word span]
    else failAt (.misplacedBound "`[const]`") span
  else if here.seesWord "const" then
    let word ← keyword "const"
    if allowed then return word else failAt (.misplacedBound "`const`") (Tokens.extent word)
  else pure []

/-- A trait with its binder and its modifier. -/
def traitBound (g : Grammar) (consts : Bool) : TokenReader Bound := do
  let early ← binder g
  let mark ← constMark consts
  let modifier ← operator? "?"
  let late ← if early.isEmpty && !modifier.isEmpty then binder g else pure []
  let lifetimes := early ++ late
  let path ← simplePath g true
  let (path, output) ← if seesCall path (← ahead) then pathCall g path else pure (path, none)
  if !lifetimes.isEmpty && !modifier.isEmpty then
    failAt .binderWithModifier (Tokens.extent modifier)
  else
    return ⟨modifier ++ lifetimes ++ path.tokens,
      if mark.isEmpty then .trait else .constant, endsBare path output⟩

/-- A name or a lifetime that is captured. -/
def captured : TokenReader AngleItem := do
  let here ← ahead
  if here.seesLifetime then return ⟨← lifetime, true⟩
  else if here.seesName || here.seesWord "Self" then return ⟨[← anyWord], false⟩
  else expectedOneOf ["lifetime", "identifier", "`>`"]

/-- What is captured, with commas in between. -/
def captures : Nat → TokenReader (List (AngleItem × Tokens))
  | 0 => pure []
  | bound + 1 => do
    if (← ahead).sees ">" then pure []
    else
      let first ← captured
      let here ← ahead
      if here.sees "," then
        let comma ← operator ","
        return (first, comma) :: (← captures bound)
      else if here.sees ">" then return [(first, [])]
      else expectedOneOf ["`,`", "`>`"]

/-- A list of what is captured, such as `use<'a, T>`. -/
def captureBound : TokenReader Tokens := do
  let head ← keyword "use"
  let opening ← operator "<"
  let items ← captures ((← ahead).size + 1)
  return head ++ opening ++ lifetimesFirst items ++ (← operator ">")

/-- A single bound. Lists of what is captured and constant traits are not allowed everywhere. -/
def anyBound (g : Grammar) (captures consts : Bool) : TokenReader Bound := do
  let here ← ahead
  if here.seesLifetime then return ⟨← lifetime, .lifetime, false⟩
  else if here.seesWord "use" then
    let tokens ← captureBound
    if captures then return ⟨tokens, .capture, false⟩
    else failAt (.misplacedBound "`use<...>` precise capturing syntax") (Tokens.extent tokens)
  else
    let bound ←
      if here.seesGroup .parenthesis then
        let (bound, span) ← group .parenthesis (traitBound g consts)
        pure { bound with tokens := [.group .parenthesis bound.tokens span] }
      else traitBound g consts
    if bound.form == .constant then return ⟨← taken here, .constant, false⟩ else return bound

/-- A single bound on a parameter. -/
def boundRule (g : Grammar) : TokenReader Tokens := do
  return (← anyBound g false true).tokens

/-- Several bounds and the signs between them. -/
structure BoundSum where
  tokens : Tokens
  bounds : List Bound
  /-- Does it end with a sign? -/
  isOpen : Bool

namespace BoundSum

/-- Does the sum end with a path that generic arguments could be added to? -/
def endsBare (sum : BoundSum) : Bool :=
  sum.bounds.getLast?.any (·.endsBare)

/-- Is one of the bounds of this form? -/
def has (sum : BoundSum) (form : BoundForm) : Bool :=
  sum.bounds.any (·.form == form)

/-- The last token of the last bound. -/
def lastTokens (sum : BoundSum) : Tokens :=
  ((sum.bounds.getLast?.map (·.tokens)).getD []).getLast?.toList

/-- The sum as a type without a keyword. -/
def object (sum : BoundSum) : TypeCode :=
  ⟨sum.tokens, .object (sum.bounds.length == 1 && !sum.isOpen), sum.endsBare⟩

end BoundSum

/-- Can a further bound begin here? -/
def seesBound (tokens : Tokens) : Bool :=
  (tokens.word?).isSome || tokens.sees "::" || tokens.sees "?" || tokens.seesLifetime ||
    tokens.seesGroup .parenthesis

/-- Add further bounds to a sum, each behind its sign. A sign may end the sum where `more` does not
hold. -/
def sumWhile (more : Tokens → Bool) (bound : TokenReader Bound) (sum : BoundSum) :
    TokenReader BoundSum := do
  go sum ((← ahead).size + 1)
where
  /-- Add at most the given number of bounds. -/
  go (sum : BoundSum) : Nat → TokenReader BoundSum
    | 0 => pure sum
    | count + 1 => do
      if (← ahead).sees "+" then
        let plus ← operator "+"
        if more (← ahead) then
          let next ← bound
          go ⟨sum.tokens ++ plus ++ next.tokens, sum.bounds ++ [next], false⟩ count
        else return ⟨sum.tokens ++ plus, sum.bounds, true⟩
      else pure sum

/-- A sum of bounds, or one bound if no sum is allowed. -/
def boundSum (plus : Bool) (bound : TokenReader Bound) : TokenReader BoundSum := do
  let first ← bound
  let sum : BoundSum := ⟨first.tokens, [first], false⟩
  if plus then sumWhile (fun here => seesBound here || here.seesGroup .bracket) bound sum
  else pure sum

/-- The bounds of a type of objects. At least one of them is a trait. -/
def objectBounds (g : Grammar) (start : Span) (plus : Bool) : TokenReader BoundSum := do
  let sum ← boundSum plus (anyBound g false false)
  if sum.has .trait then return sum
  else failAt .objectWithoutTrait (start.through (Tokens.extent sum.lastTokens))

/-- A type of objects without a keyword that begins with a lifetime. -/
def lifetimeObject (g : Grammar) : TokenReader TypeCode := do
  return (← objectBounds g (← place) true).object

/-- A type of objects behind `dyn`. One behind `dyn *` is kept the way it was written. -/
def dynType (g : Grammar) (plus : Bool) : TokenReader TypeCode := do
  let start ← ahead
  let head ← keyword "dyn"
  let star ← operator? "*"
  let sum ← objectBounds g (Tokens.extent head) plus
  if star.isEmpty then return ⟨head ++ sum.tokens, .other, sum.endsBare⟩
  else return .closed (← taken start)

/-- A type that some traits are known of. -/
def implType (g : Grammar) (plus : Bool) : TokenReader TypeCode := do
  let head ← keyword "impl"
  let sum ← boundSum plus (anyBound g true true)
  if sum.has .trait || sum.has .constant then return ⟨head ++ sum.tokens, .other, sum.endsBare⟩
  else
    failAt .implWithoutTrait ((Tokens.extent head).through (Tokens.extent sum.lastTokens))

/-- Does a parameter of a function type have a name? -/
def seesParameterName (first : Bool) (tokens : Tokens) : Bool :=
  (tokens.seesName || tokens.seesWord "_" || (first && tokens.seesWord "self")) &&
    tokens.second.seesColon

/-- A name and its colon. -/
def nameWithColon : TokenReader Tokens := do
  let word ← anyWord
  return word :: (← operator ":")

/-- A parameter of a function type: an optional name and the type. Only the first one may be a
receiver; one that can change is kept the way it was written. -/
def bareParameter (g : Grammar) (first : Bool) : TokenReader Tokens := do
  let start ← ahead
  let change ← ifAhead
    (fun here => first && here.seesWord "mut" && here.second.seesWord "self") (keyword "mut")
  let here ← ahead
  let named := seesParameterName first here
  let label ← ifAhead (seesParameterName first) nameWithColon
  let receiver := named && here.seesWord "self"
  let next ← ahead
  if first && !receiver && next.seesWord "mut" && next.second.seesWord "self" then
    let _ ← keyword "mut"
    let _ ← keyword "self"
    taken start
  else if !change.isEmpty && !named then
    let _ ← keyword "self"
    taken start
  else
    let type ← g.type true
    if change.isEmpty then return label ++ type else taken start

/-- Are three dots, possibly with a name, ahead? -/
def seesDots (tokens : Tokens) : Bool :=
  tokens.sees "..." ||
    ((tokens.seesName || tokens.seesWord "_") && tokens.second.sees ":" && tokens.third.sees "...")

/-- The parameters of a function type. Three dots end them. -/
def bareParameters (g : Grammar) : TokenReader Tokens := do
  go true ((← ahead).size + 1)
where
  /-- Read at most the given number of parameters. -/
  go (first : Bool) : Nat → TokenReader Tokens
    | 0 => pure []
    | bound + 1 => do
      if ← atEnd then pure []
      else
        let attributes ← outerAttributes g
        if seesDots (← ahead) then
          let label ← ifAhead (!·.sees "...") nameWithColon
          let dots ← operator "..."
          return attributes ++ label ++ dots ++ (← operator? ",")
        else
          let parameter ← bareParameter g first
          if ← atEnd then return attributes ++ parameter
          else
            let comma ← operator ","
            return attributes ++ parameter ++ comma ++ (← go false bound)

/-- The calling convention of a function. -/
def convention : TokenReader Tokens :=
  ifAhead (·.seesWord "extern") do
    let head ← keyword "extern"
    return head ++ (← ifAhead (·.seesString) do return [← literal])

/-- A function type behind its binder. -/
def functionType (g : Grammar) : TokenReader TypeCode := do
  let safety ← keyword? "unsafe"
  let calling ← convention
  let head ← keyword "fn"
  let parameters ← grouped .parenthesis (bareParameters g)
  let (output, type) ← arrowType g false
  return ⟨safety ++ calling ++ head ++ parameters ++ output, .other,
    type.any (·.endsBare)⟩

/-- The content of brackets in a type: a slice or an array. -/
def arrayType (g : Grammar) : TokenReader Tokens := do
  let element ← g.type true
  return element ++ (← ifAhead (·.sees ";") do
    let semicolon ← operator ";"
    return semicolon ++ (← g.value))

/-- Function arguments behind a path, as long as its last step has none. A path goes on behind them
unless a return type reaches further. -/
def pathCalls (g : Grammar) (path : Path) : TokenReader (Path × Option TypeCode) := do
  go path none ((← ahead).size + 1)
where
  /-- Take at most the given number of arguments. -/
  go (path : Path) (output : Option TypeCode) : Nat → TokenReader (Path × Option TypeCode)
    | 0 => pure (path, output)
    | bound + 1 => do
      if seesCall path (← ahead) then
        let (path, output) ← pathCall g path
        let goesOn :=
          match output with
          | none => true
          | some type => type.form matches .enclosed
        let more ← if goesOn then pathRest g true else pure []
        go { path with segments := path.segments ++ more }
          (if more.isEmpty then output else none) bound
      else pure (path, output)

/-- A type named by a path behind a binder: a macro call, a function trait, or a sum of bounds that
it begins. -/
def pathType (g : Grammar) (lifetimes : Tokens) (plus : Bool) : TokenReader TypeCode := do
  let path ← anyPath g true
  let (path, output) ← pathCalls g path
  let bare := endsBare path output
  let here ← ahead
  if !path.qualifier.isEmpty then return ⟨path.tokens, .path path, bare⟩
  else if path.isPlain && here.sees "!" && !here.sees "!=" then
    let bang ← operator "!"
    return .closed (path.tokens ++ bang ++ [← anyGroup])
  else if !lifetimes.isEmpty || (plus && here.sees "+") then
    let tokens := lifetimes ++ path.tokens
    let sum : BoundSum := ⟨tokens, [⟨tokens, .trait, bare⟩], false⟩
    let sum ← if plus then sumWhile seesBound (anyBound g false false) sum else pure sum
    return sum.object
  else return ⟨path.tokens, .path path, bare⟩

/-- Can a path begin here? -/
def seesPath (tokens : Tokens) : Bool :=
  tokens.seesName || tokens.seesWords ["super", "self", "Self", "crate"] || tokens.sees "::" ||
    tokens.sees "<"

/-- A pointer: constant or not, and what it points to. -/
def pointerType (g : Grammar) : TokenReader TypeCode := do
  let star ← operator "*"
  let here ← ahead
  if here.seesWord "const" || here.seesWord "mut" then
    let access ← anyWord
    let target ← g.typeCode false true
    return ⟨star ++ access :: target.tokens, .other, target.endsBare⟩
  else expectedOneOf ["`const`", "`mut`"]

/-- A reference: its lifetime, whether it may change its target, and the target. -/
def referenceType (g : Grammar) : TokenReader TypeCode := do
  let mark ← operator "&"
  let life ← lifetime?
  let access ← keyword? "mut"
  let target ← g.typeCode false true
  return ⟨mark ++ life ++ access ++ target.tokens, .other, target.endsBare⟩

/-- A type that begins with an invisible group. A path may go on behind one; generic arguments right
behind it belong to the path in it if `generic` allows it. -/
def hiddenType (g : Grammar) (generic : Bool) : TokenReader TypeCode := do
  let (inner, span) ← invisible (g.typeCode true true)
  let whole : TypeCode := ⟨[.group .invisible inner.tokens span], .hidden inner.path?, false⟩
  let here ← ahead
  if here.sees "::" && here.third.word?.isSome then
    match inner.form with
    | .path path =>
      let more ← pathRest g true
      let path := { path with segments := path.segments ++ more }
      return ⟨path.tokens, .path path, endsBare path none⟩
    | _ =>
      let rest ← simplePath g true
      let mark (c : Char) : Token := .punct c .alone span
      let path : Path := ⟨mark '<' :: inner.tokens ++ [mark '>'], rest.segments⟩
      return ⟨path.tokens, .path path, endsBare path none⟩
  else if (generic && here.sees "<") || (here.sees "::" && here.third.sees "<") then
    match inner.form with
    | .path path =>
      if path.lastArguments.isEmpty then
        let path := path.withArguments (← genericArguments g)
        let more ← pathRest g true
        let path := { path with segments := path.segments ++ more }
        return ⟨path.tokens, .path path, endsBare path none⟩
      else return whole
    | _ => return whole
  else return whole

/-- What is left of a tuple behind its first type. -/
def tupleRest (g : Grammar) : TokenReader Tokens :=
  ifAhead (·.sees ",") do
    let comma ← operator ","
    return comma ++ (← separated "," ended (g.type true))

/-- What parentheses in a type turn out to hold. -/
inductive Parenthesised where
  | tuple (tokens : Tokens)
  /-- A bound that is taken back. -/
  | lessened (bound : Bound)
  | single (type : TypeCode)

/-- The content of parentheses in a type. -/
def parenthesised (g : Grammar) : TokenReader Parenthesised := do
  let here ← ahead
  if here.isEmpty then return .tuple []
  else if here.seesLifetime then return .single { ← lifetimeObject g with form := .other }
  else if here.sees "?" then return .lessened (← traitBound g false)
  else
    let first ← g.typeCode true true
    let rest ← tupleRest g
    if rest.isEmpty then return .single first else return .tuple (first.tokens ++ rest)

/-- May a type in parentheses begin a sum of bounds? -/
def beginsSum (type : TypeCode) : Bool :=
  match type.form with
  | .path path => path.qualifier.isEmpty
  | .object isSingle => isSingle
  | _ => false

/-- A type in parentheses: a tuple, a single type, or a sum of bounds that it begins. -/
def parenthesisType (g : Grammar) (plus : Bool) : TokenReader TypeCode := do
  let (content, span) ← group .parenthesis (parenthesised g)
  let enclose (tokens : Tokens) : Tokens := [.group .parenthesis tokens span]
  let sumFrom (bound : Bound) : TokenReader TypeCode := do
    let tokens := enclose bound.tokens
    let sum ← sumWhile (fun _ => true) (anyBound g false false)
      ⟨tokens, [{ bound with tokens := tokens }], false⟩
    return sum.object
  match content with
  | .tuple tokens => return .closed (enclose tokens)
  | .lessened bound => sumFrom bound
  | .single type =>
    if plus && beginsSum type && (← ahead).sees "+" then
      sumFrom ⟨type.tokens, .trait, type.endsBare⟩
    else return ⟨enclose type.tokens, .enclosed, false⟩

/-- A type behind a binder: a function or a trait. -/
def boundType (g : Grammar) (plus : Bool) : TokenReader TypeCode := do
  let lifetimes ← binder g
  let here ← ahead
  if here.seesWords ["fn", "unsafe", "extern"] then
    let type ← functionType g
    return { type with tokens := lifetimes ++ type.tokens }
  else if here.seesName || here.seesWords ["super", "self", "Self", "crate"] then
    pathType g lifetimes plus
  else
    expectedOneOf ["identifier", "`fn`", "`unsafe`", "`extern`", "`super`", "`self`", "`Self`",
      "`crate`"]

/-- The forms a type may begin with, as an error lists them. -/
def typeForms : List String :=
  ["`for`", "parentheses", "`fn`", "`unsafe`", "`extern`", "identifier", "`::`", "`<`", "`dyn`",
    "square brackets", "`*`", "`&`", "`!`", "`impl`", "`_`", "lifetime"]

/-- A type. -/
def typeRule (g : Grammar) (plus generic : Bool) : TokenReader TypeCode := do
  let here ← ahead
  if here.seesInvisible then hiddenType g generic
  else if here.seesWord "for" then boundType g plus
  else if here.seesGroup .parenthesis then parenthesisType g plus
  else if here.seesWords ["fn", "unsafe", "extern"] then functionType g
  else if seesPath here then pathType g [] plus
  else if here.seesWord "dyn" then dynType g plus
  else if here.seesGroup .bracket then return .closed (← grouped .bracket (arrayType g))
  else if here.sees "*" then pointerType g
  else if here.sees "&" then referenceType g
  else if here.sees "!" then return .closed (← operator "!")
  else if here.seesWord "impl" then implType g plus
  else if here.seesWord "_" then return .closed (← keyword "_")
  else if here.seesLifetime then lifetimeObject g
  else expectedOneOf typeForms

end Grammar

end MacroExpansion
