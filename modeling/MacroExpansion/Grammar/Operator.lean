import MacroExpansion.Grammar.Pattern

/-!
# Operators between expressions

Binary operators, assignment, ranges and casts. `extend` lets an expression grow by one operator
that ranks no lower than `base`; `climb` repeats it. The right operand of an operator takes in every
operator that ranks higher, and an assignment also another assignment.

A range takes no operator behind it, and a comparison no other comparison.
-/

namespace MacroExpansion

namespace Grammar

open TokenReader

/-- The binary operators, each behind those that it is the beginning of. -/
def binaryOperators : List (String × Precedence) := [
  ("+=", .assign), ("-=", .assign), ("*=", .assign), ("/=", .assign), ("%=", .assign),
  ("^=", .assign), ("&=", .assign), ("|=", .assign), ("<<=", .assign), (">>=", .assign),
  ("&&", .and), ("||", .or), ("<<", .shift), (">>", .shift), ("==", .compare), ("<=", .compare),
  ("!=", .compare), (">=", .compare), ("+", .sum), ("-", .sum), ("*", .product), ("/", .product),
  ("%", .product), ("^", .bitXor), ("&", .bitAnd), ("|", .bitOr), ("<", .compare),
  (">", .compare)]

/-- The binary operator ahead. -/
def binaryOperator? (tokens : Tokens) : Option (String × Precedence) :=
  binaryOperators.find? fun entry => tokens.sees entry.1

/-- Does an assignment follow? -/
def seesAssign (tokens : Tokens) : Bool :=
  tokens.sees "=" && !tokens.sees "=>"

/-- The rank of the operator ahead, the lowest if there is none. -/
def nextPrecedence (tokens : Tokens) : Precedence :=
  match binaryOperator? tokens with
  | some (_, precedence) => precedence
  | none =>
    if seesAssign tokens then .assign
    else if tokens.sees ".." then .range
    else if tokens.seesWord "as" then .cast
    else .jump

/-- Would the operator open generic arguments behind the name of a type? -/
def opensGenerics (text : String) : Bool := text == "<" || text == "<<"

/-- The limits of a range in an expression. -/
def exprLimits : TokenReader Tokens := do
  let here ← ahead
  if here.sees "..=" then operator "..="
  else if here.sees "..." then expected "`..=`"
  else operator ".."

/-- Does a range with an exclusive end stop without one? -/
def rangeStops (structs : Bool) (tokens : Tokens) : Bool :=
  tokens.isEmpty || tokens.seesDot || tokens.seesWord "as" ||
    (!structs && tokens.seesGroup .brace) ||
    tokens.seesAny [",", ";", "?", "=>", "=", "+", "/", "%", "^", ">", "<=", "!=", "-=", "*=",
      "&=", "|=", "<<="]

/-- The end of a range behind its limits, which an inclusive range must have. -/
def rangeStop (g : Grammar) (structs : Bool) (limits : Tokens) : TokenReader (Option Expr) := do
  if limits.length == 2 && rangeStops structs (← ahead) then pure none
  else return some (← g.operand structs .range)

/-- What may not follow a cast, if it is ahead. -/
def afterCast? (tokens : Tokens) : Option String :=
  if tokens.seesDot then
    let next := tokens.second
    if next.seesWord "await" then some "`.await`"
    else if next.seesName && (next.second.seesGroup .parenthesis || next.second.sees "::") then
      some "a method call"
    else some "a field access"
  else if tokens.sees "?" then some "`?`"
  else if tokens.seesGroup .bracket then some "indexing"
  else if tokens.seesGroup .parenthesis then some "a function call"
  else none

/-- A cast of the given expression. -/
def castTo (g : Grammar) (operand : Expr) : TokenReader Expr := do
  let head ← keyword "as"
  let type ← g.typeCode false false
  match afterCast? (← ahead) with
  | some what => failWith (.afterCast what)
  | none => return .cast operand head type

/-- Let an expression grow by one operator that ranks no lower than `base`, if there is one. -/
def extend (g : Grammar) (structs : Bool) (base : Precedence) (left : Expr) :
    TokenReader (Option Expr) := do
  let here ← ahead
  if left.isRange then pure none
  else
    match binaryOperator? here with
    | some (text, precedence) =>
      if precedence.rank < base.rank then pure none
      else if precedence = .compare && left.isComparison then failWith .chainedComparison
      else
        let sign : Operator := ⟨← operator text, precedence, opensGenerics text⟩
        return some (.binary left sign (← g.operand structs precedence))
    | none =>
      if base.rank ≤ Precedence.assign.rank && seesAssign here then
        let sign : Operator := ⟨← operator "=", .assign, false⟩
        return some (.binary left sign (← g.operand structs .assign))
      else if base.rank ≤ Precedence.range.rank && here.sees ".." then
        let limits ← exprLimits
        return some (.range (some left) limits (← rangeStop g structs limits))
      else if base.rank ≤ Precedence.cast.rank && here.seesWord "as" then
        return some (← castTo g left)
      else pure none

/-- Let an expression grow as far as operators that rank no lower than `base` go. -/
def climb (g : Grammar) (structs : Bool) (base : Precedence) (left : Expr) : TokenReader Expr := do
  go left ((← ahead).size + 1)
where
  /-- Take in at most the given number of operators. -/
  go (left : Expr) : Nat → TokenReader Expr
    | 0 => pure left
    | bound + 1 => do
      match ← extend g structs base left with
      | some left => go left bound
      | none => pure left

/-- The right operand of an operator of the given rank. -/
def operandRule (g : Grammar) (structs : Bool) (precedence : Precedence) : TokenReader Expr := do
  let first ← g.unary structs
  go first ((← ahead).size + 1)
where
  /-- Take in at most the given number of runs of operators. -/
  go (right : Expr) : Nat → TokenReader Expr
    | 0 => pure right
    | bound + 1 => do
      let next := nextPrecedence (← ahead)
      if precedence.rank < next.rank || (next = precedence && precedence = .assign) then
        match ← extend g structs next right with
        | some right => go (← climb g structs next right) bound
        | none => pure right
      else pure right

/-- An expression. -/
def exprRule (g : Grammar) (structs : Bool) : TokenReader Expr := do
  let first ← g.unary structs
  climb g structs .jump first

end Grammar

end MacroExpansion
