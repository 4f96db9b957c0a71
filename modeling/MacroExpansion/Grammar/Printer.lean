import MacroExpansion.Grammar.Tree

/-!
# Expressions and statements as tokens

`Expr.tokens` and `Stmt.tokens` print the tree. Parentheses are put around a part in four cases.

* At the start of a statement, where a block-like expression would end it: one that is the leftmost
  operand of an operator is enclosed, and so is a `let`, which would be read as a binding.
* Where a part that binds too loosely is followed by more and ends with something closed, such as a
  closure with a return type (`Expr.isSealed`).
* Where a cast to a bare path is followed by what would be read as the path's generic arguments.
* Where a `break` without a label would take the label of its value for its own.

A range with attributes is enclosed behind them. The setting of an expression, `Setting`, is what of
its surroundings matters for this.
-/

namespace MacroExpansion

/-- Where in a statement an expression is printed. -/
inductive Place where
  /-- Not at its start. -/
  | inner
  /-- At its start, with nothing or a dot behind. -/
  | statement
  /-- At its start, with an operator behind. -/
  | operand
deriving DecidableEq, Repr

namespace Place

/-- The place of what an operator follows. -/
def beforeOperator : Place → Place
  | inner => inner
  | _ => operand

/-- The place of what a dot or a question mark follows. -/
def beforeDot : Place → Place
  | inner => inner
  | _ => statement

/-- Would the expression be misread at this place without parentheses? -/
def needsParentheses (place : Place) (expr : Expr) : Bool :=
  match place with
  | inner => false
  | statement => expr.isCondition
  | operand => expr.isCondition || expr.isBlockLike

end Place

/-- What surrounds an expression where it is printed. -/
structure Setting where
  place : Place
  /-- Does something that it is a part of go on behind it? -/
  isFollowed : Bool
  /-- Would what goes on behind it be read as generic arguments of a path? -/
  opensGenerics : Bool
deriving DecidableEq, Repr

namespace Setting

/-- Nothing matters around it. -/
def alone : Setting := ⟨.inner, false, false⟩

/-- It begins a statement. -/
def statement : Setting := ⟨.statement, false, false⟩

/-- The setting of what an operator, a call or an index follows. -/
def beforeOperator (setting : Setting) (opensGenerics : Bool) : Setting :=
  ⟨setting.place.beforeOperator, true, opensGenerics⟩

/-- The setting of what a dot or a question mark follows. -/
def beforeDot (setting : Setting) : Setting := ⟨setting.place.beforeDot, true, false⟩

/-- The setting of what an expression ends with. -/
def atEnd (setting : Setting) : Setting := { setting with place := .inner }

/-- Does an operand need parentheses here? The condition says which precedence is too low. -/
def encloses (setting : Setting) (refuses : Precedence → Bool) (expr : Expr) : Bool :=
  setting.place.needsParentheses expr ||
    (setting.isFollowed && expr.isSealed && refuses expr.precedence) ||
    (setting.opensGenerics && expr.isBareCast)

/-- The setting inside the parentheses, if there are any. -/
def within (setting : Setting) (enclosed : Bool) : Setting :=
  if enclosed then alone else setting

/-- Put parentheses around tokens, or leave them. -/
def wrap (enclosed : Bool) (tokens : Tokens) : Tokens :=
  if enclosed then [.enclosed .parenthesis tokens] else tokens

@[simp] theorem wrap_false (tokens : Tokens) : wrap false tokens = tokens := rfl

end Setting

mutual

/-- The tokens of an expression in a setting where it needs no parentheses itself. -/
def Expr.print (setting : Setting) : Expr → Tokens
  | .attributed attributes inner =>
    let enclosed := inner.isRange
    attributes ++ Setting.wrap enclosed (inner.print (setting.within enclosed))
  | .literal token => [token]
  | .path path => path.tokens
  | .hidden inner span => [.group .invisible (inner.print .alone) span]
  | .closure head opening parameters closing output body =>
    head ++ opening ++ parameters ++ closing ++ output ++ body.print setting.atEnd
  | .block label attributes statements span =>
    label ++ [.group .brace (attributes ++ Stmt.printAll statements) span]
  | .control label tokens => label ++ tokens
  | .macroCall call => call.tokens
  | .unary operator operand =>
    let behind := setting.atEnd
    let enclosed := behind.encloses (·.isBelow .sign) operand
    operator ++ Setting.wrap enclosed (operand.print (behind.within enclosed))
  | .binary left operator right =>
    let before := setting.beforeOperator operator.opensGenerics
    let behind := setting.atEnd
    let closesLeft := before.encloses operator.refusesLeft left
    let closesRight := behind.encloses operator.refusesRight right
    Setting.wrap closesLeft (left.print (before.within closesLeft)) ++ operator.tokens ++
      Setting.wrap closesRight (right.print (behind.within closesRight))
  | .cast operand keyword type =>
    let before := setting.beforeOperator false
    let enclosed := before.encloses (·.isBelow .cast) operand
    Setting.wrap enclosed (operand.print (before.within enclosed)) ++ keyword ++ type.tokens
  | .range start operator stop =>
    (match start with
      | none => []
      | some start =>
        let before := setting.beforeOperator false
        let enclosed := before.encloses (·.isAtMost .range) start
        Setting.wrap enclosed (start.print (before.within enclosed))) ++
      operator ++
      (match stop with
        | none => []
        | some stop =>
          let behind := setting.atEnd
          let enclosed := behind.encloses (·.isAtMost .range) stop
          Setting.wrap enclosed (stop.print (behind.within enclosed)))
  | .call function arguments span =>
    let before := setting.beforeOperator false
    let enclosed := before.encloses (·.isBelow .whole) function
    Setting.wrap enclosed (function.print (before.within enclosed)) ++
      [.group .parenthesis (Element.printAll arguments) span]
  | .index base position =>
    let before := setting.beforeOperator false
    let enclosed := before.encloses (·.isBelow .whole) base
    Setting.wrap enclosed (base.print (before.within enclosed)) ++ [position]
  | .select base suffix =>
    let before := setting.beforeDot
    let enclosed := before.encloses (·.isBelow .whole) base
    Setting.wrap enclosed (base.print (before.within enclosed)) ++ suffix
  | .jump keyword label value =>
    keyword ++ label ++
      (match value with
        | none => []
        | some value =>
          let enclosed := Expr.takesLabel keyword label value
          Setting.wrap enclosed (value.print (setting.atEnd.within enclosed)))
  | .condition head value =>
    let behind := setting.atEnd
    let enclosed := behind.encloses (·.isBelow .condition) value
    head ++ Setting.wrap enclosed (value.print (behind.within enclosed))
  | .atom tokens => tokens
  | .untouched tokens => tokens

/-- The tokens of arguments with their separators. -/
def Element.printAll : List Element → Tokens
  | [] => []
  | .mk value separator :: rest => value.print .alone ++ separator ++ Element.printAll rest

/-- The tokens of statements in a row. -/
def Stmt.printAll : List Stmt → Tokens
  | [] => []
  | statement :: rest => statement.print ++ Stmt.printAll rest

/-- The tokens of a statement. -/
def Stmt.print : Stmt → Tokens
  | .expr value semicolon =>
    let enclosed := Place.statement.needsParentheses value
    Setting.wrap enclosed (value.print (Setting.statement.within enclosed)) ++ semicolon
  | .macroCall attributes call semicolon => attributes ++ call.tokens ++ semicolon
  | .binding binding => binding.tokens
  | .item tokens => tokens
  | .empty semicolon => semicolon

end

namespace Expr

/-- The tokens of an expression that does not begin a statement. -/
def tokens (expr : Expr) : Tokens := expr.print .alone

/-- The stretch from its first to its last token. -/
def span (expr : Expr) : Span := Tokens.extent expr.tokens

/-- The expression with attributes put in front of those it has. One that is kept as it was written
takes none. -/
def withAttributes (attributes : Tokens) (expr : Expr) : Expr :=
  if attributes.isEmpty then expr
  else
    match expr with
    | attributed inner expr => attributed (attributes ++ inner) expr
    | untouched tokens => untouched tokens
    | expr => attributed attributes expr

end Expr

namespace Stmt

/-- The tokens of a statement. -/
def tokens (statement : Stmt) : Tokens := statement.print

@[simp] theorem printAll_eq_flatMap (statements : List Stmt) :
    printAll statements = statements.flatMap tokens := by
  induction statements with
  | nil => simp [printAll]
  | cons statement rest ih => simp [printAll, ih, tokens]

/-- Does the statement need a semicolon or the end of its block behind it? -/
def needsSemicolon : Stmt → Bool
  | expr value [] => !value.isBlockLike
  | macroCall _ call [] => !call.isBraced
  | _ => false

end Stmt

namespace Block

/-- The tokens of a block. -/
def tokens (block : Block) : Tokens :=
  [.group .brace (block.statements.flatMap Stmt.tokens) block.span]

end Block

end MacroExpansion
