import MacroExpansion.Expand.Basic

/-!
# Expanding unwrappings

Every value argument becomes a guard: a `let` that binds the unwrapped value to the same name and
leaves the function, after a report in debug builds, if there is no value. The body follows the
guards. It is the block behind the arguments or the argument labelled `body`, a closure without
parameters or a block; the strategy says how it is emitted. Its call as a closure is put together
from tokens and read as a statement again.

Checks come in a fixed order, and the first that fails decides: a repeated body, two bodies or none,
the form of the body, and then every value from left to right.
-/

namespace MacroExpansion

namespace Unwrap

/-- The label of the body. -/
def bodyLabel : String := "body"

/-- What runs behind the guards. -/
inductive Body where
  /-- A closure, as written, and its body. -/
  | closure (whole : Expr) (body : Expr)
  | block (content : Block)

/-- The end of a made-up statement. -/
def semicolon : Tokens := Tokens.symbol ";"

/-- An expression as a statement of its own. -/
def terminate (expr : Expr) : Stmt := .expr expr semicolon

/-- A statement that can be followed by others: a final expression gets a semicolon. -/
def close : Stmt → Stmt
  | .expr expr [] => terminate expr
  | statement => statement

namespace Body

/-- The statements that a body emits inline. -/
def statements : Body → List Stmt
  | block content => content.statements.map close
  | closure _ (.block [] _ statements _) => statements.map close
  | closure _ (.attributed _ (.block [] _ statements _)) => statements.map close
  | closure _ body => [terminate body]

/-- The closure that a body is called as, a block behind bars of its own. -/
def closureTokens : Body → Tokens
  | closure whole _ => whole.tokens
  | block content => Tokens.symbol "||" ++ content.tokens

/-- The call of a body as a closure, before it is read. -/
def callTokens (body : Body) : Tokens :=
  [.enclosed .parenthesis body.closureTokens, .enclosed .parenthesis []] ++ semicolon

/-- The call of a body as a closure. -/
def call (body : Body) : Except Failure Stmt :=
  (Stmt.ofTokens body.callTokens).mapError .unreadable

/-- What a body emits. -/
def emit (strategy : Strategy) (body : Body) : Except Failure (List Stmt) :=
  match strategy with
  | .inline => .ok body.statements
  | .closure => body.call.map fun statement => [statement]

/-- The body that an expression is, seen through invisible groups. -/
def ofExpr : Expr → Except Failure Body
  | .hidden inner _ => ofExpr inner
  | .attributed _ (.hidden inner _) => ofExpr inner
  | .closure head opening parameters closing output body =>
    if parameters.isEmpty then
      .ok (closure (.closure head opening parameters closing output body) body)
    else .error (.misuse .bodyParameters (Tokens.extent parameters))
  | .attributed attributes (.closure head opening parameters closing output body) =>
    if parameters.isEmpty then
      .ok (closure
        (.attributed attributes (.closure head opening parameters closing output body)) body)
    else .error (.misuse .bodyParameters (Tokens.extent parameters))
  | .block [] _ statements span => .ok (block ⟨statements, span⟩)
  | .attributed _ (.block [] _ statements span) => .ok (block ⟨statements, span⟩)
  | expr => .error (.misuse .wrongBody expr.span)

end Body

/-- The name that a value is, seen through invisible groups. -/
def bindingName : Expr → Except Failure Ident
  | .hidden inner _ => bindingName inner
  | .attributed _ (.hidden inner _) => bindingName inner
  | .path path =>
    match path.name? with
    | some name => .ok name
    | none => .error (.misuse .notAName (Expr.path path).span)
  | expr => .error (.misuse .notAName expr.span)

/-- What is reported when a value is missing. -/
def missingMessage (name : Ident) : String := "Unexpected None value: " ++ name.text

/-- What a guard does if there is no value: report it in debug builds, and leave. -/
def escape (module : Path) (location : Location) (name : Ident) : Tokens :=
  let comma := Tokens.symbol ","
  Tokens.symbol "#" ++
    [.enclosed .bracket [.word "cfg", .enclosed .parenthesis [.word "debug_assertions"]]] ++
    (Runtime.report module).tokens ++
    [.enclosed .parenthesis ([.string (missingMessage name)] ++ comma ++ location.fileTokens ++
      comma ++ location.lineTokens)] ++
    semicolon ++ [.word "return"] ++ semicolon

/-- The guard of a value. It starts where the value does. -/
def guard (module : Path) (location : Location) (value : Expr) (name : Ident) : Stmt :=
  .binding {
    attributes := []
    keyword := [.ident "let" value.span]
    pattern := Runtime.some.tokens ++ [.enclosed .parenthesis [name.token]]
    type := []
    value := Tokens.symbol "=" ++ [name.token]
    otherwise := [.word "else", .enclosed .brace (escape module location name)]
    semicolon := semicolon }

/-- The guards of values in order, or why there are none. -/
def guards (module : Path) (location : Location) : List Expr → Except Failure (List Stmt)
  | [] => .ok []
  | value :: rest => do
    let name ← bindingName value
    return guard module location value name :: (← guards module location rest)

/-- Is this the argument for the body? -/
def isBody (argument : Argument) : Bool := argument.isLabelled bodyLabel

/-- The argument for the body, which may not be repeated. -/
def bodyArgument? (arguments : List Argument) : Except Failure (Option Argument) :=
  match arguments.filter isBody with
  | [] => .ok none
  | [argument] => .ok (some argument)
  | _ :: second :: _ => .error (.misuse .repeatedBody second.span)

/-- The values to unwrap: all arguments but the body. -/
def values (arguments : List Argument) : List Expr :=
  (arguments.filter fun argument => !isBody argument).map (·.expr)

/-- The body of an invocation at the given place. -/
def body (site : Span) (invocation : Invocation) : Except Failure Body := do
  match ← bodyArgument? invocation.arguments, invocation.trailing with
  | some argument, none => Body.ofExpr argument.expr
  | none, some trailing => return .block trailing.block
  | some argument, some _ => throw (.misuse .twoBodies argument.span)
  | none, none => throw (.misuse .noBody site)

/-- The guards of an invocation and its body. -/
def parts (module : Path) (site : Span) (location : Location) (invocation : Invocation) :
    Except Failure (List Stmt × Body) := do
  let body ← body site invocation
  return (← guards module location (values invocation.arguments), body)

/-- Expand an unwrapping. -/
def expand (options : Options) (invocation : Invocation) : Expand (List Stmt) := do
  Expand.note (.unwrap invocation.size options.strategy)
  let context ← get
  let (guards, body) ←
    Expand.ofExcept (parts options.module context.site context.location invocation)
  Expand.note (.guards guards.length)
  return guards ++ (← Expand.ofExcept (body.emit options.strategy))

end Unwrap

end MacroExpansion
