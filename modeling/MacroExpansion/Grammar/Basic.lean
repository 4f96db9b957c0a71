import MacroExpansion.Grammar.Printer
import MacroExpansion.Grammar.TokenReader

/-!
# The shape of the grammar

Expressions, types, patterns, statements and items refer to one another. `Grammar` is the record of
the readers that the rules of each part need from the others; a rule is a function of such a record.
Tying the knot is left to one place, which bounds how deep the rules may nest.
-/

namespace MacroExpansion

/-- What a rule needs to know about a pattern. -/
inductive PatternForm where
  | plain
  /-- A range, and where its limits are if its start or its end is missing. -/
  | range (gap : Option Span)
  /-- A pattern that is kept the way it was written. -/
  | untouched
deriving Repr, Inhabited

/-- A pattern as it was read. -/
structure Pattern where
  tokens : Tokens
  form : PatternForm
deriving Repr, Inhabited

namespace Pattern

/-- A pattern about which there is nothing to know. -/
def plain (tokens : Tokens) : Pattern := ⟨tokens, .plain⟩

/-- The tokens of a pattern with attributes. A range is enclosed behind them; a pattern that is kept
as it was written takes none. -/
def withAttributes (attributes : Tokens) (pattern : Pattern) : Tokens :=
  match pattern.form with
  | .plain => attributes ++ pattern.tokens
  | .range _ => attributes ++ Setting.wrap (!attributes.isEmpty) pattern.tokens
  | .untouched => pattern.tokens

end Pattern

/-- Readers that the rules of the grammar share. -/
structure Grammar where
  /-- An expression; with `false`, one that a brace ends, as in front of a branch's block. -/
  expr : Bool → TokenReader Expr
  /-- An expression without binary operators. -/
  unary : Bool → TokenReader Expr
  /-- The right operand of an operator. -/
  operand : Bool → Precedence → TokenReader Expr
  /-- An expression that ends after a block, as at the start of a statement. -/
  leading : TokenReader Expr
  /-- Statements up to the end of a block. -/
  statements : TokenReader (List Stmt)
  /-- A type. The first flag allows a sum of bounds, the second generic arguments right behind an
  invisible group. -/
  typeCode : Bool → Bool → TokenReader TypeCode
  /-- A bound on a type. -/
  bound : TokenReader Tokens
  /-- A pattern with its alternatives. -/
  pattern : TokenReader Pattern
  /-- A pattern without alternatives. -/
  single : TokenReader Pattern
  /-- An item with its attributes. -/
  item : TokenReader Tokens
  /-- What is imported by a `use`, and whether a part of it begins at the root. The flag allows
  that. -/
  useTree : Bool → TokenReader (Tokens × Bool)

namespace Grammar

open TokenReader

/-- The grammar that reads nothing. -/
def nothing : Grammar where
  expr _ := expected "an expression"
  unary _ := expected "an expression"
  operand _ _ := expected "an expression"
  leading := expected "an expression"
  statements := expected "an expression"
  typeCode _ _ := expected "an expression"
  bound := expected "an expression"
  pattern := expected "an expression"
  single := expected "an expression"
  item := expected "an expression"
  useTree _ := expected "an expression"

/-- A type as tokens; with `false`, one without a sum of bounds. -/
def type (g : Grammar) (plus : Bool) : TokenReader Tokens := do
  return (← g.typeCode plus true).tokens

/-- An expression as tokens. -/
def value (g : Grammar) : TokenReader Tokens := do
  return (← g.expr true).tokens

end Grammar

end MacroExpansion
