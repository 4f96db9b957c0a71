import MacroExpansion.Grammar.Item

/-!
# Statements

A statement is an item, a `let`, a macro call, an expression or a semicolon alone. An expression
without a semicolon may stand in front of another statement only if it is block-like. A macro call
in braces is a statement of its own unless a dot or a question mark goes on.
-/

namespace MacroExpansion

namespace Grammar

open TokenReader

/-- The value of a `let` with its equals sign, and whether `else` may follow it. A value that ends
with a brace leaves no room for one. -/
def bindingValue (g : Grammar) : TokenReader (Tokens × Bool) := do
  if (← ahead).sees "=" then
    let equals ← operator "="
    let value ← g.expr true
    return (equals ++ value.tokens, !value.endsWithBrace)
  else return ([], false)

/-- A `let` behind its attributes. -/
def binding (g : Grammar) (attributes : Tokens) : TokenReader Stmt := do
  let head ← keyword "let"
  let pattern ← g.single
  let type ← ifAhead (·.sees ":") do return (← operator ":") ++ (← g.type true)
  let (value, mayFail) ← bindingValue g
  let otherwise ← ifAhead (fun here => mayFail && here.seesWord "else") do
    return (← keyword "else") ++ (← blockTokens g)
  let semicolon ← operator ";"
  return .binding ⟨attributes, head, pattern.tokens, type, value, otherwise, semicolon⟩

/-- Attributes in front of an operator belong to its leftmost operand. -/
def attributeLeftmost (attributes : Tokens) : Expr → Expr
  | .binary left operator right => .binary (attributeLeftmost attributes left) operator right
  | .cast operand keyword type => .cast (attributeLeftmost attributes operand) keyword type
  | expr => expr.withAttributes attributes

/-- The statement that an expression makes with or without a semicolon. -/
def statementOf (semicolon : Tokens) : Expr → Stmt
  | .attributed attributes (.macroCall call) =>
    if !semicolon.isEmpty || call.isBraced then .macroCall attributes call semicolon
    else .expr (.attributed attributes (.macroCall call)) semicolon
  | .macroCall call =>
    if !semicolon.isEmpty || call.isBraced then .macroCall [] call semicolon
    else .expr (.macroCall call) semicolon
  | expr => .expr expr semicolon

/-- An expression as a statement, behind its attributes. -/
def exprStatement (g : Grammar) (attributes : Tokens) : TokenReader Stmt := do
  let expr ← g.leading
  let semicolon ← operator? ";"
  return statementOf semicolon (attributeLeftmost attributes expr)

/-- Does an item begin here? -/
def seesItem (here : Tokens) : Bool :=
  let next := here.second
  let after := here.third
  here.seesWords ["pub", "extern", "use", "fn", "mod", "type", "struct", "enum", "trait", "impl",
    "macro"] ||
  (here.seesWord "crate" && !next.sees "::") ||
  (here.seesWord "static" && (next.seesWord "mut" || next.seesName)) ||
  (here.seesWord "const" &&
    !(next.seesGroup .brace || next.seesWord "static" || next.seesWord "move" || next.sees "|" ||
      (next.seesWord "async" && !after.seesWords ["unsafe", "extern", "fn"]))) ||
  (here.seesWord "unsafe" && !next.seesGroup .brace) ||
  (here.seesWord "async" && next.seesWords ["unsafe", "extern", "fn"]) ||
  (here.seesWord "union" && next.seesName) ||
  (here.seesWord "auto" && next.seesWord "trait") ||
  (here.seesWord "default" && next.seesWords ["unsafe", "impl"])

/-- What a path in front of a statement turns out to be. -/
inductive Opening where
  /-- A macro call in braces that is a statement of its own. -/
  | macroCall (path : Path) (rest : Tokens)
  /-- A macro call that names what it defines. -/
  | definition
  | other

/-- Look at the path a statement begins with and what is behind it. -/
def opening : TokenReader Opening := do
  match ← succeeds plainPath with
  | none => return .other
  | some (path, rest) =>
    if rest.sees "!" then
      let next := rest.second
      let after := rest.third
      if next.seesName || next.seesWord "try" then return .definition
      else if next.seesGroup .brace && !(after.seesDot || after.sees "?") then
        return .macroCall path rest
      else return .other
    else return .other

/-- An item as a statement, behind its attributes, which were ahead at `start`. -/
def itemStatement (g : Grammar) (start attributes : Tokens) : TokenReader Stmt := do
  let draft ← itemRest g
  if draft.isLoose then return .item (← taken start) else return .item (attributes ++ draft.tokens)

/-- A statement that is no lone semicolon. -/
def statement (g : Grammar) : TokenReader Stmt := do
  let start ← ahead
  let attributes ← outerAttributes g
  match ← opening with
  | .macroCall path rest =>
    resume rest
    let bang ← operator "!"
    let body ← anyGroup
    return .macroCall attributes ⟨path, bang, body⟩ (← operator? ";")
  | .definition => itemStatement g start attributes
  | .other =>
    let here ← ahead
    if here.seesWord "let" && !here.seesInvisible then binding g attributes
    else if seesItem here then itemStatement g start attributes
    else exprStatement g attributes

/-- Statements up to the end of a block. -/
def statementsRule (g : Grammar) : TokenReader (List Stmt) := do
  go ((← ahead).size + 1)
where
  /-- Read at most the given number of statements. -/
  go : Nat → TokenReader (List Stmt)
    | 0 => pure []
    | bound + 1 => do
      if ← atEnd then pure []
      else if (← ahead).sees ";" then
        let semicolon ← operator ";"
        return .empty semicolon :: (← go bound)
      else
        let next ← statement g
        if !(← atEnd) && next.needsSemicolon then failWith .unterminated
        else return next :: (← go bound)

end Grammar

end MacroExpansion
