import MacroExpansion.Grammar.Statement

/-!
# The grammar as a whole

The rules refer to one another through the record of readers they take. `Grammar.ofDepth` lets the
rules nest to a given depth. Each nesting takes a token or goes down one of a few fixed steps
between two tokens, so the depth that `Grammar.ofInput` computes from the input is never reached.
-/

namespace MacroExpansion

namespace Grammar

/-- One more level of nesting. -/
def deepen (g : Grammar) : Grammar where
  expr := exprRule g
  unary := unaryRule g
  operand := operandRule g
  leading := leadingRule g
  statements := statementsRule g
  typeCode := typeRule g
  bound := boundRule g
  pattern := patternRule g
  single := singleRule g
  item := itemRule g
  useTree := useTreeRule g

/-- The grammar whose rules nest to the given depth. -/
def ofDepth : Nat → Grammar
  | 0 => nothing
  | depth + 1 => deepen (ofDepth depth)

/-- The grammar for an input. -/
def ofInput (tokens : Tokens) : Grammar := ofDepth (8 * tokens.size + 8)

end Grammar

namespace Path

/-- Read a path as it stands in a type. -/
def ofTokens (tokens : Tokens) : Except SyntaxError Path :=
  TokenReader.run (Grammar.simplePath (Grammar.ofInput tokens) true) tokens

end Path

namespace Expr

/-- Read one expression. -/
def ofTokens (tokens : Tokens) : Except SyntaxError Expr :=
  TokenReader.run ((Grammar.ofInput tokens).expr true) tokens

end Expr

namespace Stmt

/-- Read one statement, which needs a semicolon of its own unless it ends with a block. -/
def ofTokens (tokens : Tokens) : Except SyntaxError Stmt :=
  TokenReader.run
    (do
      let statement ← Grammar.statement (Grammar.ofInput tokens)
      if statement.needsSemicolon then TokenReader.expected "semicolon" else pure statement)
    tokens

/-- Read statements in a row. -/
def listOfTokens (tokens : Tokens) : Except SyntaxError (List Stmt) :=
  TokenReader.run (Grammar.ofInput tokens).statements tokens

end Stmt

end MacroExpansion
