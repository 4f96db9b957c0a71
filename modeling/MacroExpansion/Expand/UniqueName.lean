import MacroExpansion.Expand.Basic

/-!
# Expanding unique names

Without arguments, the macro binds the empty tuple to a name that the context hands out.
-/

namespace MacroExpansion

namespace UniqueName

/-- What the names are derived from. -/
def hint : String := "unique"

/-- The binding of the empty tuple to a name. -/
def placeholder (name : String) : Stmt :=
  .binding {
    attributes := []
    keyword := [.word "let"]
    pattern := [.word name]
    type := Tokens.symbol ":" ++ [.enclosed .parenthesis []]
    value := Tokens.symbol "=" ++ [.enclosed .parenthesis []]
    otherwise := []
    semicolon := Tokens.symbol ";" }

/-- The first thing in an invocation that should not be there: an argument, or the arrow. -/
def excess? (invocation : Invocation) : Option Span :=
  match invocation.arguments with
  | argument :: _ => some argument.span
  | [] => invocation.trailing.map fun trailing => Tokens.extent trailing.arrow

/-- Expand a unique name. -/
def expand (invocation : Invocation) : Expand (List Stmt) := do
  Expand.note .uniqueName
  match excess? invocation with
  | some span => Expand.fail .unexpectedArgument span
  | none =>
    let name ← Expand.allocate hint
    Expand.note (.allocated name)
    return [placeholder name]

end UniqueName

end MacroExpansion
