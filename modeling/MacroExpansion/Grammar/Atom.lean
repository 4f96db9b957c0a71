import MacroExpansion.Grammar.Postfix

/-!
# Atoms

Expressions that no operator divides: literals, paths, groups, closures, blocks, branches, loops and
jumps, and the operators in front of them.

An invisible group is an expression of its own. If it holds just a path, the path may go on behind
the group, become the name of a macro or of a structure; then the group is gone.
-/

namespace MacroExpansion

namespace Grammar

open TokenReader

/-- A block as an expression, behind its label. -/
def blockExpr (g : Grammar) (label : Tokens) : TokenReader Expr := do
  let ((attributes, statements), span) ← attributedBlock g
  return .block label attributes statements span

/-- A branch with all its alternatives. -/
def branch (g : Grammar) : Nat → TokenReader Tokens
  | 0 => pure []
  | bound + 1 => do
    let head ← keyword "if"
    let condition ← g.expr false
    let yes ← blockTokens g
    let start := head ++ condition.tokens ++ yes
    if (← ahead).seesWord "else" then
      let otherwise ← keyword "else"
      let here ← ahead
      if here.seesWord "if" then return start ++ otherwise ++ (← branch g bound)
      else if here.seesGroup .brace then return start ++ otherwise ++ (← blockTokens g)
      else expected "`if` or curly braces"
    else return start

/-- An arm of a `match`. A body that is no block needs a comma in front of the next arm. -/
def arm (g : Grammar) : TokenReader Tokens := do
  let attributes ← outerAttributes g
  let pattern ← g.pattern
  let guard ← ifAhead (·.seesWord "if") do return (← keyword "if") ++ (← g.value)
  let arrow ← operator "=>"
  let body ← g.leading
  let comma ← if !body.isControl && !(← atEnd) then operator "," else operator? ","
  return attributes ++ pattern.tokens ++ guard ++ arrow ++ body.tokens ++ comma

/-- A `match`. -/
def matchArms (g : Grammar) : TokenReader Tokens := do
  let head ← keyword "match"
  let value ← g.expr false
  let arms ← grouped .brace do
    return (← innerAttributes g) ++ (← repeatWhile (fun tokens => !tokens.isEmpty) (arm g))
  return head ++ value.tokens ++ arms

/-- A loop over a condition. -/
def whileLoop (g : Grammar) : TokenReader Tokens := do
  let head ← keyword "while"
  let condition ← g.expr false
  return head ++ condition.tokens ++ (← bodyTokens g)

/-- A loop over values. -/
def forLoop (g : Grammar) : TokenReader Tokens := do
  let head ← keyword "for"
  let pattern ← g.pattern
  let link ← keyword "in"
  let values ← g.expr false
  return head ++ pattern.tokens ++ link ++ values.tokens ++ (← bodyTokens g)

/-- A loop without a condition, and the other blocks that a single word marks. -/
def markedBlock (g : Grammar) (word : String) : TokenReader Tokens := do
  let head ← keyword word
  return head ++ (← bodyTokens g)

/-- Does `for` bind parameters of a closure here? -/
def seesBinder (tokens : Tokens) : Bool :=
  tokens.seesWord "for" && tokens.second.seesParameters

/-- An expression that ends a statement by its closing brace, or nothing if none begins here. -/
def control? (g : Grammar) : TokenReader (Option Expr) := do
  let here ← ahead
  if here.seesWord "if" then return some (.control [] (← branch g here.size))
  else if here.seesWord "while" then return some (.control [] (← whileLoop g))
  else if here.seesWord "for" && !seesBinder here then
    return some (.control [] (← forLoop g))
  else if here.seesWord "loop" then return some (.control [] (← markedBlock g "loop"))
  else if here.seesWord "match" then return some (.control [] (← matchArms g))
  else if here.seesWord "try" && here.second.seesGroup .brace then
    let head ← keyword "try"
    return some (.control [] (head ++ (← blockTokens g)))
  else if here.seesWord "unsafe" then return some (.control [] (← markedBlock g "unsafe"))
  else if here.seesWord "const" && here.second.seesGroup .brace then
    return some (.control [] (← markedBlock g "const"))
  else if here.seesGroup .brace then return some (← blockExpr g [])
  else pure none

/-- A loop or a block behind its label. -/
def labelled (g : Grammar) : TokenReader Expr := do
  let life ← lifetime
  let colon ← operator ":"
  let label := life ++ colon
  let here ← ahead
  if here.seesWord "while" then return .control label (← whileLoop g)
  else if here.seesWord "for" then return .control label (← forLoop g)
  else if here.seesWord "loop" then return .control label (← markedBlock g "loop")
  else if here.seesGroup .brace then blockExpr g label
  else expected "loop or block expression"

/-- A field of a structure. -/
def fieldValue (g : Grammar) : TokenReader Tokens := do
  let attributes ← outerAttributes g
  let field ← member
  if (← ahead).sees ":" || !isNamed field then
    let colon ← operator ":"
    return attributes ++ field :: colon ++ (← g.value)
  else return attributes ++ [field]

/-- The fields of a structure, and what the rest of it is taken from. -/
def structContent (g : Grammar) : TokenReader Tokens := do
  let fields ← separatedBy "," (fun tokens => tokens.isEmpty || tokens.sees "..") ended
    (fieldValue g)
  let base ← ifAhead (·.sees "..") do
    let dots ← operator ".."
    if ← atEnd then return dots else return dots ++ (← g.value)
  return fields ++ base

/-- A path, and the macro call or the structure that it turns out to name. -/
def named (g : Grammar) (structs : Bool) (path : Path) : TokenReader Expr := do
  let here ← ahead
  if path.isPlain && here.sees "!" && !here.sees "!=" then
    let bang ← operator "!"
    return .macroCall ⟨path, bang, ← anyGroup⟩
  else if structs && here.seesGroup .brace then
    return .atom (path.tokens ++ (← grouped .brace (structContent g)))
  else return .path path

/-- An invisible group. -/
def hiddenExpr (g : Grammar) (structs : Bool) : TokenReader Expr := do
  let (inner, span) ← invisible (g.expr true)
  match inner with
  | .path path =>
    let more ← pathRest g false
    let whole ← named g structs { path with segments := path.segments ++ more }
    match whole with
    | .path _ => if more.isEmpty then return .hidden whole span else return whole
    | _ => return whole
  | _ => return .hidden inner span

/-- A parameter of a closure with its type. -/
def closureParameter (g : Grammar) : TokenReader Tokens := do
  let attributes ← outerAttributes g
  let pattern ← g.single
  let type ← ifAhead (·.sees ":") do return (← operator ":") ++ (← g.type true)
  if type.isEmpty then return pattern.withAttributes attributes
  else return attributes ++ pattern.tokens ++ type

/-- A closure. One with a return type has a block for its body. -/
def closure (g : Grammar) (structs : Bool) : TokenReader Expr := do
  let lifetimes ← binder g
  let constant ← keyword? "const"
  let still ← keyword? "static"
  let deferred ← keyword? "async"
  let capture ← keyword? "move"
  let head := lifetimes ++ constant ++ still ++ deferred ++ capture
  let opening ← operator "|"
  let parameters ← separated "," (·.sees "|") (closureParameter g)
  let closing ← operator "|"
  if (← ahead).sees "->" then
    let output ← returnType g true
    let body ← block g
    return .closure head opening parameters closing output
      (.block [] [] body.statements body.span)
  else return .closure head opening parameters closing [] (← g.expr structs)

/-- Does a closure begin here? -/
def seesClosure (tokens : Tokens) : Bool :=
  tokens.sees "|" || tokens.seesWord "move" || seesBinder tokens ||
    (tokens.seesWord "const" && !tokens.second.seesGroup .brace) || tokens.seesWord "static" ||
    (tokens.seesWord "async" && (tokens.second.sees "|" || tokens.second.seesWord "move"))

/-- Can an expression begin here? -/
def seesExpr (tokens : Tokens) : Bool :=
  (tokens.word?.any (· != "as")) || tokens.seesGroup .parenthesis || tokens.seesGroup .bracket ||
    tokens.seesGroup .brace || tokens.seesSignedLiteral ||
    (tokens.sees "!" && !tokens.sees "!=") ||
    (tokens.sees "-" && !tokens.sees "-=" && !tokens.sees "->") ||
    (tokens.sees "*" && !tokens.sees "*=") || (tokens.sees "|" && !tokens.sees "|=") ||
    (tokens.sees "&" && !tokens.sees "&=") || tokens.sees ".." ||
    (tokens.sees "<" && !tokens.sees "<=" && !tokens.sees "<<=") || tokens.sees "::" ||
    tokens.seesLifetime || tokens.sees "#"

/-- A jump with the value it carries, if one follows. -/
def jump (g : Grammar) (word : String) : TokenReader Expr := do
  let head ← keyword word
  if seesExpr (← ahead) then return .jump head [] (some (← g.expr true))
  else return .jump head [] none

/-- A labelled value of a `break`, which needs parentheses. -/
def bareLabel (g : Grammar) : TokenReader Expr := do
  let start ← ahead
  let _ ← g.expr true
  let whole ← taken start
  failAt .bareLabel ((Tokens.extent start.expose.head?.toList).through (Tokens.extent whole))

/-- The end of a loop, with the loop's label and its value. A brace may be a value only where one
may be a structure. -/
def breakJump (g : Grammar) (structs : Bool) : TokenReader Expr := do
  let head ← keyword "break"
  let here ← ahead
  if here.seesLifetime && here.second.sees ":" then bareLabel g
  else
    let label ← lifetime?
    let here ← ahead
    if seesExpr here && (structs || !here.seesGroup .brace) then
      return .jump head label (some (← g.expr true))
    else return .jump head label none

/-- The next round of a loop. -/
def continueJump : TokenReader Expr := do
  let head ← keyword "continue"
  return .jump head (← lifetime?) none

/-- The forms that are only recognised, and kept the way they were written: a call in tail position
and the call of a function that the language itself provides. -/
def untouched? (g : Grammar) : TokenReader (Option Expr) := do
  let here ← ahead
  if here.seesWord "become" then
    return some (.untouched (← asWritten do
      let _ ← keyword "become"
      g.expr true))
  else if here.seesWord "builtin" && here.second.sees "#" then
    return some (.untouched (← asWritten do
      let _ ← keyword "builtin"
      let _ ← operator "#"
      let _ ← name
      group .parenthesis everything))
  else pure none

/-- A `let` as a condition. Its value takes in no `&&` and `||`. -/
def letCondition (g : Grammar) (structs : Bool) : TokenReader Expr := do
  let head ← keyword "let"
  let pattern ← g.pattern
  let equals ← operator "="
  let first ← g.unary structs
  return .condition (head ++ pattern.tokens ++ equals) (← climb g structs .compare first)

/-- The content of brackets: elements, or one element and how often it is repeated. -/
def arrayContent (g : Grammar) : TokenReader Tokens := do
  if ← atEnd then pure []
  else
    let first ← g.expr true
    let here ← ahead
    if here.isEmpty then return first.tokens
    else if here.sees "," then
      let comma ← operator ","
      return first.tokens ++ comma ++ (← elementTokens g)
    else if here.sees ";" then
      let semicolon ← operator ";"
      return first.tokens ++ semicolon ++ (← g.value)
    else expected "`,` or `;`"

/-- A block whose value is computed later. -/
def asyncBlock (g : Grammar) : TokenReader Expr := do
  let head ← keyword "async"
  let capture ← keyword? "move"
  return .atom (head ++ capture ++ (← blockTokens g))

/-- Does a block whose value is computed later begin here? -/
def seesAsyncBlock (tokens : Tokens) : Bool :=
  tokens.seesWord "async" && (tokens.second.seesGroup .brace ||
    (tokens.second.seesWord "move" && tokens.third.seesGroup .brace))

/-- Does a path begin here? -/
def seesExprPath (tokens : Tokens) : Bool :=
  seesPath tokens ||
    (tokens.seesWord "try" && (tokens.second.sees "!" || tokens.second.sees "::"))

/-- A jump, if one begins here. -/
def jump? (g : Grammar) (structs : Bool) : TokenReader (Option Expr) := do
  let here ← ahead
  if here.seesWord "break" then return some (← breakJump g structs)
  else if here.seesWord "continue" then return some (← continueJump)
  else if here.seesWord "return" then return some (← jump g "return")
  else if here.seesWord "yield" then return some (← jump g "yield")
  else pure none

/-- An expression that no operator divides. -/
def atomRule (g : Grammar) (structs : Bool) : TokenReader Expr := do
  let here ← ahead
  if here.seesInvisible then hiddenExpr g structs
  else if here.seesLiteral then return .literal (← literal)
  else if seesAsyncBlock here then asyncBlock g
  else if seesClosure here then closure g structs
  else if let some expr ← untouched? g then return expr
  else if seesExprPath here then named g structs (← anyPath g false)
  else if here.seesGroup .parenthesis then
    return .atom (← grouped .parenthesis (elementTokens g))
  else if let some expr ← jump? g structs then return expr
  else if here.seesGroup .bracket then return .atom (← grouped .bracket (arrayContent g))
  else if here.seesWord "let" then letCondition g structs
  else if let some expr ← control? g then return expr
  else if here.sees ".." then
    let limits ← exprLimits
    return .range none limits (← rangeStop g structs limits)
  else if here.seesWord "_" then return .atom (← keyword "_")
  else if here.seesLifetime then labelled g
  else expected "an expression"

/-- An atom with what follows it directly, behind the given attributes, which were ahead at `start`.
An atom that is kept the way it was written keeps them too. -/
def attributedAtom (g : Grammar) (structs : Bool) (start attributes : Tokens) :
    TokenReader Expr := do
  let atom ← atomRule g structs
  let expr ← trail g atom
  match expr with
  | .untouched _ => return .untouched (← taken start)
  | .range none limits _ =>
    if attributes.isEmpty then return expr
    else failAt .attributeOnRange (Tokens.extent limits)
  | _ => return expr.withAttributes attributes

/-- What stands between the sign of a reference and its target. -/
def referenceModifiers : TokenReader Tokens := do
  let here ← ahead
  if here.seesWord "raw" && (here.second.seesWord "mut" || here.second.seesWord "const") then
    let raw ← keyword "raw"
    if (← ahead).seesWord "mut" then return raw ++ (← keyword "mut")
    else return raw ++ (← keyword "const")
  else keyword? "mut"

/-- An expression without binary operators. -/
def unaryRule (g : Grammar) (structs : Bool) : TokenReader Expr := do
  let start ← ahead
  let attributes ← exprAttributes g
  let here ← ahead
  if here.seesInvisible then attributedAtom g structs start attributes
  else if here.sees "&" then
    let mark ← operator "&"
    let modifiers ← referenceModifiers
    let operand ← g.unary structs
    return (Expr.unary (mark ++ modifiers) operand).withAttributes attributes
  else
    match ["*", "!", "-"].find? here.sees with
    | some sign =>
      let mark ← operator sign
      let operand ← g.unary structs
      return (Expr.unary mark operand).withAttributes attributes
    | none => attributedAtom g structs start attributes

/-- The first part of an expression at the start of a statement, whole if it ends one. -/
def leadingPart (g : Grammar) : TokenReader Expr := do
  let here ← ahead
  if here.seesInvisible then
    let atom ← hiddenExpr g true
    if atom.endsEarly then return atom else trail g atom
  else
    match ← control? g with
    | some expr => return expr
    | none => if here.seesLifetime then labelled g else g.unary true

/-- An expression that ends after a block unless a dot or a question mark goes on. -/
def leadingRule (g : Grammar) : TokenReader Expr := do
  let attributes ← exprAttributes g
  let first ← leadingPart g
  if !first.endsEarly then climb g true .jump (first.withAttributes attributes)
  else
    let here ← ahead
    if here.seesDot || here.sees "?" then
      let whole ← trail g first
      climb g true .jump (whole.withAttributes attributes)
    else return first.withAttributes attributes

end Grammar

end MacroExpansion
