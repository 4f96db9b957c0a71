import MacroExpansion.Expand.Render
import MacroExpansion.Text.Name

/-!
# Sessions

A session is a sequence of actions in one context: steps, each with options of its own, and reports
at any place. Each action answers and leaves a context for the next one. A step that fails does not
end the session, and what it did to the context before it failed stays.
-/

namespace MacroExpansion

namespace Session

/-- What can be asked of a context. -/
inductive Step where
  /-- A fresh name derived from a hint. -/
  | uniqueName (hint : String)
  /-- Report a diagnostic at the place of the invocation. -/
  | report (fault : ColorFault)
  /-- Take the pending diagnostics. -/
  | take
  /-- Take the pending diagnostics as compile errors. -/
  | takeErrors
  /-- Where the invocation is. -/
  | location
  /-- Expand a macro call. -/
  | expand (kind : Builtin) (tokens : Tokens)
  /-- Expand a macro call and print its replacement. -/
  | render (kind : Builtin) (tokens : Tokens)

/-- What a step answers. -/
inductive Answer where
  /-- A fresh name. -/
  | named (name : String)
  /-- The text cannot be a name. -/
  | refused (fault : NameFault)
  /-- The diagnostic is pending. -/
  | reported
  /-- The diagnostics that were pending. -/
  | taken (diagnostics : List Diagnostic)
  /-- The diagnostics that were pending, each as a compile error. -/
  | errors (list : List Tokens)
  /-- Where the invocation is. -/
  | located (location : Location)
  /-- The replacement of a macro call. -/
  | expanded (expansion : Expansion)
  /-- The macro call could not be expanded. -/
  | failed (failure : Failure)
  /-- What is printed in the place of a macro call. -/
  | rendered (tokens : Tokens)

/-- Hand out a fresh name. A hint may make the text unusable as a name. -/
def allocate (hint : String) (context : Context) : Answer × Context :=
  let (name, context) := context.allocate hint
  match NameFault.ofText? name with
  | none => (.named name, context)
  | some fault => (.refused fault, context)

/-- Make one step. -/
def perform (options : Options) : Step → Context → Answer × Context
  | .uniqueName hint, context => allocate hint context
  | .report fault, context => (.reported, context.report ⟨fault, context.site⟩)
  | .take, context =>
    let (diagnostics, context) := context.take
    (.taken diagnostics, context)
  | .takeErrors, context =>
    let (diagnostics, context) := context.take
    (.errors (diagnostics.map fun diagnostic => compileError diagnostic.message), context)
  | .location, context => (.located context.location, context)
  | .expand kind tokens, context =>
    match (kind.expandTokens options tokens).runIn context with
    | (.ok expansion, context) => (.expanded expansion, context)
    | (.error failure, context) => (.failed failure, context)
  | .render kind tokens, context =>
    let (output, context) := kind.render options tokens context
    (.rendered output, context)

/-- What is done with a context: a step with options of its own, or a report at any place. -/
inductive Action where
  | step (options : Options) (step : Step)
  | report (diagnostic : Diagnostic)

/-- The answer to an action, and the context after it. -/
def Action.perform : Action → Context → Answer × Context
  | step options own, context => Session.perform options own context
  | report diagnostic, context => (.reported, context.report diagnostic)

/-- Perform actions in a row: the answer to each with the context after it. -/
def run : List Action → Context → List (Answer × Context)
  | [], _ => []
  | action :: rest, context =>
    let (answer, context) := action.perform context
    (answer, context) :: run rest context

end Session

end MacroExpansion
