import MacroExpansion.Token.Basic

/-!
# Precedence

Operators are ranked: one binds its operands tighter the higher it ranks. Forms without operators
rank above all of them. `Operator` is a binary operator as it was read, with its rank.
-/

namespace MacroExpansion

/-- How tight an operator binds, loosest first. -/
inductive Precedence where
  | jump
  | assign
  | range
  | or
  | and
  | condition
  | compare
  | bitOr
  | bitXor
  | bitAnd
  | shift
  | sum
  | product
  | cast
  /-- Operators in front of their operand. -/
  | sign
  /-- Forms that no operator divides. -/
  | whole
deriving DecidableEq, Repr, Inhabited

namespace Precedence

/-- The position in the order of precedence. -/
def rank (p : Precedence) : Nat := p.ctorIdx

/-- Does one operator bind looser than another? -/
def isBelow (p q : Precedence) : Bool := p.rank < q.rank

/-- Does one operator bind no tighter than another? -/
def isAtMost (p q : Precedence) : Bool := p.rank ≤ q.rank

end Precedence

/-- A binary operator. -/
structure Operator where
  tokens : Tokens
  rank : Precedence
  /-- Would it open generic arguments behind the name of a type? -/
  opensGenerics : Bool
deriving Repr, Inhabited

namespace Operator

/-- Does an operand of this rank bind too loosely on the left? -/
def refusesLeft (operator : Operator) (p : Precedence) : Bool :=
  match operator.rank with
  | .assign => p.isAtMost .range
  | .compare => p.isAtMost .compare
  | rank => p.isBelow rank

/-- Does an operand of this rank bind too loosely on the right? An assignment takes everything. -/
def refusesRight (operator : Operator) (p : Precedence) : Bool :=
  match operator.rank with
  | .assign => false
  | rank => p.isAtMost rank

end Operator

end MacroExpansion
