import MacroExpansion.Expand.Color
import MacroExpansion.Expand.Unwrap
import MacroExpansion.Expand.UniqueName

/-!
# From arguments to replacement

`Builtin.expand` expands an invocation that has been read. `Builtin.render` goes all the way from
tokens to tokens, and it is all or nothing: if a diagnostic is pending, from this expansion or from
an earlier one, or if the invocation failed, the result consists of compile errors only, one for
each of them in order.
-/

namespace MacroExpansion

/-- A compile error with a message. -/
def compileError (message : String) : Tokens :=
  callMacro Runtime.compileError .brace [.string message]

namespace Builtin

/-- Expand an invocation of the macro. -/
def expand (kind : Builtin) (options : Options) (invocation : Invocation) : Expand Expansion := do
  Expand.note (.expanding kind)
  match kind with
  | color =>
    match ← Color.expand options.module invocation with
    | some expr => return .expr expr
    | none => return .empty
  | unwrap => return .statements (← Unwrap.expand options invocation)
  | uniqueName => return .statements (← UniqueName.expand invocation)

/-- Read tokens as an invocation of the macro and expand it. -/
def expandTokens (kind : Builtin) (options : Options) (tokens : Tokens) : Expand Expansion :=
  match Invocation.ofTokens tokens with
  | .error error => throw (.unreadable error)
  | .ok invocation => kind.expand options invocation

/-- A compile error in the place of a call of the macro. -/
def errorTokens (kind : Builtin) (message : String) : Tokens :=
  compileError message ++
    match kind.role with
    | .expression => []
    | .declaration => Tokens.symbol ";"

/-- Read, expand and print an invocation of the macro in a context. No diagnostic is pending
afterwards. -/
def render (kind : Builtin) (options : Options) (tokens : Tokens) (context : Context) :
    Tokens × Context :=
  let (result, context) := (kind.expandTokens options tokens).runIn context
  let (diagnostics, context) := context.take
  let failure : List Failure :=
    match result with
    | .ok _ => []
    | .error failure => [failure]
  let messages := diagnostics.map Diagnostic.message ++ failure.map Failure.message
  match result, messages with
  | .ok expansion, [] => (expansion.tokens, context)
  | _, messages => (messages.flatMap kind.errorTokens, context)

end Builtin

end MacroExpansion
