import MacroExpansion.Proofs.Conservation
import MacroExpansion.Proofs.Unwrap.Reference

/-!
# The trace tells what happened

An expansion notes that it begins, which macro it expands, and what it finds out on its way. Events
stand at the points where something is decided, so the trace shows how the expansion came out: a
color that was validated or reported, guards that are all there, a name that was handed out.
`Builtin.Tells` lists the possible traces the way a subscriber sees them, each with the outcome that
it goes together with.

Tokens that cannot be read leave no trace. Over a whole session the reports in the trace are the
diagnostics that were reported.
-/

namespace MacroExpansion

namespace Trace

/-- The text of the diagnostic that a record of a report shows. -/
def Record.report? (record : Record) : Option String :=
  if record.fields.lookup "message" = some "report" then record.fields.lookup "diagnostic" else none

end Trace

namespace Context

end Context

namespace Color

/-- The record of arguments that are passed over: there are some if there are more than two. -/
def passedOver (arguments : Nat) : List Trace.Record :=
  if 3 ≤ arguments then
    [Trace.detail "color"
      [("ignored", Trace.count (arguments - 2)), ("message", "ignoring trailing arguments")]]
  else []

end Color

namespace Unwrap

end Unwrap

namespace Builtin

open Trace in
/-- What an expansion tells a subscriber, by its result and by the diagnostics that are pending
before and after it. -/
inductive Tells (options : Options) (invocation : Invocation) (before after : List Diagnostic) :
    Builtin → Except Failure Expansion → List Record → Prop where
  | validated {space : Option Expr} {rgb : Rgb} {place : Span} (kept : after = before) :
      Tells options invocation before after .color
        (.ok (.expr (Color.construct options.module space rgb place)))
        ([step "registry" [("kind", "Color")],
            step "color" [("arguments", count invocation.size)]] ++
          Color.passedOver invocation.size ++
          [detail "color" [("channels", rgb.debug), ("message", "validated")]])
  | reported (diagnostic : Diagnostic) (appended : after = before ++ [diagnostic]) :
      Tells options invocation before after .color (.ok .empty)
        ([step "registry" [("kind", "Color")],
            step "color" [("arguments", count invocation.size)]] ++
          Color.passedOver invocation.size ++
          [detail "context" [("diagnostic", diagnostic.message), ("message", "report")]])
  /-- All guards are there. Only the call of the body may still turn out to be unreadable. -/
  | guarded {result : Except Failure Expansion} (formed : Unwrap.WellFormed invocation)
      (proper : ∀ reason span, result ≠ .error (.misuse reason span)) :
      Tells options invocation before after .unwrap result
        [step "registry" [("kind", "Unwrap")],
          step "unwrap" [("arguments", count invocation.size),
            ("strategy", options.strategy.debug)],
          detail "unwrap" [("guards",
            count (invocation.arguments.filter fun argument => !Unwrap.isBody argument).length)]]
  | unguarded (failure : Failure) (malformed : ¬ Unwrap.WellFormed invocation) :
      Tells options invocation before after .unwrap (.error failure)
        [step "registry" [("kind", "Unwrap")],
          step "unwrap" [("arguments", count invocation.size),
            ("strategy", options.strategy.debug)]]
  | allocated (name : String) :
      Tells options invocation before after .uniqueName
        (.ok (.statements [UniqueName.placeholder name]))
        [step "registry" [("kind", "UniqueName")], step "unique_name" [],
          detail "unique_name" [("message", "allocated"), ("name", name)]]
  | refused (failure : Failure) :
      Tells options invocation before after .uniqueName (.error failure)
        [step "registry" [("kind", "UniqueName")], step "unique_name" []]

section Outcome

variable (options : Options) (invocation : Invocation) (site : Span) (location : Location)
  (number : Nat) (before : List Diagnostic)

end Outcome

end Builtin

namespace Session

end Session

end MacroExpansion
