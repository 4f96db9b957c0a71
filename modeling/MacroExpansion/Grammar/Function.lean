import MacroExpansion.Grammar.Atom

/-!
# Functions as items

Who may use an item, the parameters of a function with its receiver, and functions with or without
a body.

Some items are read although no program may contain them, such as a function without a body or a
constant without a value. They are handed on the way they were written. `Draft` is an item together
with whether it is one of these.
-/

namespace MacroExpansion

namespace Grammar

open TokenReader

/-- An item, and whether it has to be kept the way it was written. -/
structure Draft where
  tokens : Tokens
  isLoose : Bool

/-- Read an item with its attributes. They are put in front of it, unless it is kept as written. -/
def withAttributes (g : Grammar) (item : TokenReader Draft) : TokenReader Tokens := do
  let start ← ahead
  let attributes ← outerAttributes g
  let draft ← item
  if draft.isLoose then taken start else return attributes ++ draft.tokens

/-- Does a restriction of visibility stand in these parentheses? -/
def restricts (inner : Tokens) : Bool :=
  inner.seesWord "in" ||
    (inner.seesWords ["crate", "self", "super"] && inner.second.isEmpty)

/-- Who may use an item. -/
def visibility : TokenReader Tokens :=
  ifAhead (·.seesWord "pub") do
    let head ← keyword "pub"
    return head ++ (← ifAhead
      (fun here => match here.expose with
        | .group .parenthesis inner _ :: _ => restricts inner
        | _ => false)
      (grouped .parenthesis do
        let within ← keyword? "in"
        if within.isEmpty then return [← anyWord]
        else return within ++ (← plainPath).tokens))

/-- The receiver of a method, and the place of its name. A reference takes no type. -/
def receiver (g : Grammar) : TokenReader (Tokens × Span) := do
  let mark ← operator? "&"
  let life ← if mark.isEmpty then pure [] else lifetime?
  let access ← keyword? "mut"
  let self ← keyword "self"
  let type ← ifAhead (fun here => mark.isEmpty && here.sees ":") do
    return (← operator ":") ++ (← g.type true)
  return (mark ++ life ++ access ++ self ++ type, Tokens.extent self)

/-- The end of the parameters of a function behind three dots: nothing, or a comma. -/
def behindDots : TokenReader Tokens := do
  if ← atEnd then pure [] else operator ","

/-- What a parameter of a function turns out to be. -/
inductive Parameter where
  /-- The receiver, and the place of its name. -/
  | receiver (tokens : Tokens) (place : Span)
  | typed (tokens : Tokens)
  /-- Three dots with what stands in front of them. -/
  | dots (tokens : Tokens)

/-- A parameter of a function behind its attributes. A type alone stands for a parameter without a
name if it has generic arguments. -/
def parameter (g : Grammar) : TokenReader Parameter := do
  let here ← ahead
  if here.sees "..." then return .dots (← operator "...")
  else if (← succeeds (receiver g)).isSome then
    let (tokens, place) ← receiver g
    return .receiver tokens place
  else if here.seesName && here.second.sees "<" then
    let span ← place
    return .typed (.ident "_" span :: .punct ':' .alone span :: (← g.type true))
  else
    let pattern ← g.single
    let colon ← operator ":"
    let start := pattern.tokens ++ colon
    if (← ahead).sees "..." then return .dots (start ++ (← operator "..."))
    else return .typed (start ++ (← g.type true))

/-- The parameters of a function. Only the first may be a receiver, and dots end them. -/
def parameters (g : Grammar) : TokenReader Tokens := do
  go none ((← ahead).size + 1)
where
  /-- Read at most the given number of parameters, behind none or behind some with or without a
  receiver. -/
  go (before : Option Bool) : Nat → TokenReader Tokens
    | 0 => pure []
    | bound + 1 => do
      if ← atEnd then pure []
      else
        let attributes ← outerAttributes g
        match ← parameter g, before with
        | .dots tokens, _ => return attributes ++ tokens ++ (← behindDots)
        | .receiver _ place, some true => failAt .secondReceiver place
        | .receiver _ place, some false => failAt .lateReceiver place
        | .receiver tokens _, none => rest (attributes ++ tokens) true bound
        | .typed tokens, _ => rest (attributes ++ tokens) (before.getD false) bound
  /-- Go on behind a parameter. -/
  rest (first : Tokens) (received : Bool) (bound : Nat) : TokenReader Tokens := do
    if ← atEnd then return first
    else
      let comma ← operator ","
      return first ++ comma ++ (← go (some received) bound)

/-- A function up to its body, and whether it is marked as safe, which only a declaration in an
external block may be. -/
def signature (g : Grammar) (allowsSafe : Bool) : TokenReader (Tokens × Bool) := do
  let constant ← keyword? "const"
  let deferred ← keyword? "async"
  let safety ← keyword? "unsafe"
  let safe ← ifAhead (fun here => allowsSafe && safety.isEmpty && here.seesWord "safe")
    (keyword "safe")
  let calling ← convention
  let head ← keyword "fn"
  let function ← name
  let generic ← generics g
  let inputs ← grouped .parenthesis (parameters g)
  let output ← returnType g true
  let conditions ← whereClause g
  return (constant ++ deferred ++ safety ++ calling ++ head ++ function :: generic ++ inputs ++
    output ++ conditions, !safe.isEmpty)

/-- Does a function begin here, with all its modifiers? -/
def seesSignature (allowsSafe : Bool) (tokens : Tokens) : Bool :=
  let skip (word : String) (here : Tokens) : Tokens :=
    if here.seesWord word then here.second else here
  let here := skip "async" (skip "const" tokens)
  let here :=
    if allowsSafe && here.seesWord "safe" then here.second else skip "unsafe" here
  let here :=
    if here.seesWord "extern" then
      if here.second.seesString then here.third else here.second
    else here
  here.seesWord "fn"

/-- A function. Without a body it is kept as written. -/
def functionItem (g : Grammar) : TokenReader Draft := do
  let access ← visibility
  let defaultness ← keyword? "default"
  let (head, _) ← signature g false
  let start := access ++ defaultness ++ head
  if (← ahead).sees ";" then return ⟨start ++ (← operator ";"), true⟩
  else return ⟨start ++ (← bodyTokens g), false⟩

/-- A function of a trait, whose body may be missing. -/
def traitFunction (g : Grammar) : TokenReader Tokens := do
  let (head, _) ← signature g false
  let here ← ahead
  if here.seesGroup .brace then return head ++ (← bodyTokens g)
  else if here.sees ";" then return head ++ (← operator ";")
  else expectedOneOf ["curly braces", "`;`"]

end Grammar

end MacroExpansion
