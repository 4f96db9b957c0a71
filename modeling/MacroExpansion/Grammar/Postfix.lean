import MacroExpansion.Grammar.Operator

/-!
# What follows an expression directly

Calls, fields, methods, indexing and question marks behind an expression. A number with a point
behind a dot is two positions: `x.0.1` selects twice.
-/

namespace MacroExpansion

namespace Grammar

open TokenReader

/-- Arguments divided by commas up to the end of their group. -/
def elements (g : Grammar) : TokenReader (List Element) := do
  go ((← ahead).size + 1)
where
  /-- Read at most the given number of arguments. -/
  go : Nat → TokenReader (List Element)
    | 0 => pure []
    | bound + 1 => do
      if ← atEnd then pure []
      else
        let value ← g.expr true
        if ← atEnd then return [.mk value []]
        else
          let comma ← operator ","
          return .mk value comma :: (← go bound)

/-- Expressions divided by commas up to the end of their group, as tokens. -/
def elementTokens (g : Grammar) : TokenReader Tokens := do
  return Element.printAll (← elements g)

/-- The part of a literal between two of its columns. -/
def columns (span : Span) (start stop : Nat) : Span :=
  ⟨⟨span.start.line, span.start.column + start⟩, ⟨span.start.line, span.start.column + stop⟩⟩

/-- The selections that a number with points stands for: positions and the dots between them. A
final point is the dot of the selection that follows. -/
def positions (span : Span) : Nat → List (List Char) → TokenReader Tokens
  | _, [] => pure []
  | start, part :: rest => do
    let stop := start + part.length
    let here ← position false part span (columns span start stop)
    if rest.isEmpty then pure [here]
    else
      let dot := Token.punct '.' .alone (columns span stop (stop + 1))
      if rest.all (·.isEmpty) then pure [here, dot]
      else return here :: dot :: (← positions span (stop + 1) rest)

/-- Cut at every point. -/
def splitPoints : List Char → List (List Char)
  | [] => [[]]
  | c :: rest =>
    if c = '.' then [] :: splitPoints rest
    else
      match splitPoints rest with
      | part :: more => (c :: part) :: more
      | [] => [[c]]

/-- A field, a method call or an `await` behind its dot. -/
def selection (g : Grammar) (dots : Tokens) : TokenReader Tokens := do
  let here ← ahead
  if here.seesWord "await" then return dots ++ (← keyword "await")
  else if here.seesName then
    let field ← name
    let generic ← ifAhead (·.sees "::") (genericArguments g)
    if !generic.isEmpty || (← ahead).seesGroup .parenthesis then
      return dots ++ field :: generic ++ (← grouped .parenthesis (elementTokens g))
    else return dots ++ [field]
  else return dots ++ [← member]

/-- What a dot selects. -/
def dotted (g : Grammar) : TokenReader Tokens := do
  let dot ← operator "."
  let here ← ahead
  if here.seesFloat || (here.sees "-" && here.second.seesFloat) then
    let (isSigned, text, span) ← signedNumber
    let parts := splitPoints text.toList
    if isSigned then
      return dot ++ [← position true (parts.headD []) span span]
    else
      let found ← positions span 0 parts
      if text.endsWith "." then selection g (dot ++ found) else return dot ++ found
  else selection g dot

/-- Let an expression grow by one part behind it, if there is one. -/
def follow (g : Grammar) (base : Expr) : TokenReader (Option Expr) := do
  let here ← ahead
  if here.seesGroup .parenthesis then
    let (arguments, span) ← group .parenthesis (elements g)
    return some (.call base arguments span)
  else if here.seesDot && !base.isRange then
    return some (.select base (← dotted g))
  else if here.seesGroup .bracket then
    let (position, span) ← group .bracket (g.expr true)
    return some (.index base (.group .bracket position.tokens span))
  else if here.sees "?" && !base.isRange then
    return some (.select base (← operator "?"))
  else pure none

/-- Let an expression grow by everything that follows it directly. -/
def trail (g : Grammar) (base : Expr) : TokenReader Expr := do
  go base ((← ahead).size + 1)
where
  /-- Take in at most the given number of parts. -/
  go (base : Expr) : Nat → TokenReader Expr
    | 0 => pure base
    | bound + 1 => do
      match ← follow g base with
      | some base => go base bound
      | none => pure base

end Grammar

end MacroExpansion
