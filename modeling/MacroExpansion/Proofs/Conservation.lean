import MacroExpansion.Proofs.UniqueNames

/-!
# Diagnostics are conserved

A diagnostic stays pending from its report until it is handed over, by a step that takes the pending
ones or by a rendering, which prints them. So at every point of a session those handed over so far,
followed by the pending ones, are those reported so far, in order and each once. `Ledger` keeps both
lists beside the context; the trace, in which every report is noted, is a second account of what was
reported.

An expansion reports at most one diagnostic. It does so exactly if there is no replacement, which
happens to colors only. A failure leaves neither a diagnostic nor a used number behind.
-/

namespace MacroExpansion

/-- The message of the report that an event notes. -/
def Trace.Event.report? : Trace.Event → Option String
  | reported message => some message
  | _ => none

namespace Effect

/-- Does the trace show exactly the reports, in order? -/
def Noted (effect : Effect) : Prop :=
  effect.events.filterMap Trace.Event.report? = effect.reports.map Diagnostic.message

end Effect

namespace Builtin

/-- How an expansion goes together with what it leaves in its context. -/
inductive Accounted (kind : Builtin) (before after : Context) :
    Except Failure Expansion → Prop where
  /-- There is no replacement, and one diagnostic more says why. -/
  | empty (diagnostic : Diagnostic) (color : kind = .color)
      (reported : after.pending = before.pending ++ [diagnostic]) :
      Accounted kind before after (.ok .empty)
  | replaced (expansion : Expansion) (some : expansion ≠ .empty)
      (kept : after.pending = before.pending) :
      Accounted kind before after (.ok expansion)
  | failed (failure : Failure) (kept : after.pending = before.pending)
      (unnamed : after.names = before.names) :
      Accounted kind before after (.error failure)

theorem accounted_color (options : Options) (invocation : Invocation) (context : Context) :
    Accounted .color context ((color.expand options invocation).runIn context).2
      ((color.expand options invocation).runIn context).1 := by
  rw [runIn_expand]
  simp only [outcome, Color.outcome]
  cases Color.verdict options.module context.site invocation with
  | error diagnostic => exact .empty diagnostic rfl rfl
  | ok found =>
      obtain ⟨rgb, call⟩ := found
      exact .replaced (.expr call) (by simp) (List.append_nil _)

theorem accounted_unwrap (options : Options) (invocation : Invocation) (context : Context) :
    Accounted .unwrap context ((unwrap.expand options invocation).runIn context).2
      ((unwrap.expand options invocation).runIn context).1 := by
  rw [runIn_expand]
  simp only [outcome, Unwrap.outcome]
  cases Unwrap.parts options.module context.site context.location invocation with
  | error failure => exact .failed failure (List.append_nil _) rfl
  | ok found =>
      obtain ⟨guards, body⟩ := found
      dsimp only
      -- The call of the body may still fail to be read, and even then nothing was reported.
      cases body.emit options.strategy with
      | error failure => exact .failed failure (List.append_nil _) rfl
      | ok emitted =>
          exact .replaced (.statements (guards ++ emitted)) (by simp)
            (List.append_nil _)

theorem accounted_uniqueName (options : Options) (invocation : Invocation) (context : Context) :
    Accounted .uniqueName context ((uniqueName.expand options invocation).runIn context).2
      ((uniqueName.expand options invocation).runIn context).1 := by
  rw [runIn_expand]
  simp only [outcome, UniqueName.outcome]
  cases UniqueName.excess? invocation with
  | some span => exact .failed _ (List.append_nil _) rfl
  | none => exact .replaced _ (by simp) (List.append_nil _)

/-- Every expansion goes together with what it leaves behind. -/
theorem accounted_expand (kind : Builtin) (options : Options) (invocation : Invocation)
    (context : Context) :
    kind.Accounted context ((kind.expand options invocation).runIn context).2
      ((kind.expand options invocation).runIn context).1 := by
  cases kind with
  | color => exact accounted_color options invocation context
  | unwrap => exact accounted_unwrap options invocation context
  | uniqueName => exact accounted_uniqueName options invocation context

theorem noted_outcome (kind : Builtin) (options : Options) (invocation : Invocation) (site : Span)
    (location : Location) (number : Nat) :
    (kind.outcome options invocation site location number).2.Noted := by
  cases kind with
  | color =>
      simp only [outcome, Color.outcome, Color.entering]
      split <;> split <;> rfl
  | unwrap =>
      simp only [outcome, Unwrap.outcome]
      split <;> rfl
  | uniqueName =>
      simp only [outcome, UniqueName.outcome]
      split <;> rfl

theorem noted_outcomeOfTokens (kind : Builtin) (options : Options) (tokens : Tokens) (site : Span)
    (location : Location) (number : Nat) :
    (kind.outcomeOfTokens options tokens site location number).2.Noted := by
  unfold outcomeOfTokens
  cases Invocation.ofTokens tokens with
  | error error => rfl
  | ok invocation => exact noted_outcome kind options invocation site location number

/-- The trace of an expansion goes on with the messages of what it reports. -/
theorem trace_expandTokens (kind : Builtin) (options : Options) (tokens : Tokens)
    (context : Context) :
    ((kind.expandTokens options tokens).runIn context).2.trace.filterMap Trace.Event.report? =
      context.trace.filterMap Trace.Event.report? ++
        (kind.reports options tokens context).map Diagnostic.message := by
  rw [runIn_expandTokens, reports_eq, Context.trace_apply, List.filterMap_append]
  exact congrArg _ (noted_outcomeOfTokens kind options tokens _ _ _)

end Builtin

namespace Session

namespace Action

/-- The diagnostics that an action reports. -/
def reported : Action → Context → List Diagnostic
  | report diagnostic, _ => [diagnostic]
  | step _ (.report fault), context => [⟨fault, context.site⟩]
  | step options (.expand kind tokens), context => kind.reports options tokens context
  | step options (.render kind tokens), context => kind.reports options tokens context
  | _, _ => []

/-- The diagnostics that an action hands over. A rendering hands over its own ones too. -/
def drained : Action → Context → List Diagnostic
  | step _ .take, context => context.pending
  | step _ .takeErrors, context => context.pending
  | step options (.render kind tokens), context =>
    context.pending ++ kind.reports options tokens context
  | _, _ => []

/-- How an answer shows the diagnostics that are handed over with it. -/
inductive Delivers : Action → List Diagnostic → Answer → Prop where
  | taken {options : Options} (diagnostics : List Diagnostic) :
      Delivers (step options .take) diagnostics (.taken diagnostics)
  | errors {options : Options} (diagnostics : List Diagnostic) :
      Delivers (step options .takeErrors) diagnostics
        (.errors (diagnostics.map fun diagnostic => compileError diagnostic.message))
  | rendered {options : Options} {kind : Builtin} {tokens output : Tokens}
      {result : Except Failure Expansion} (diagnostics : List Diagnostic)
      (printed : Builtin.Printed kind.role diagnostics result output) :
      Delivers (step options (.render kind tokens)) diagnostics (.rendered output)
  | nothing {action : Action} (answer : Answer) (silent : ∀ list, answer ≠ .taken list)
      (quiet : ∀ list, answer ≠ .errors list) (unprinted : ∀ output, answer ≠ .rendered output) :
      Delivers action [] answer

variable (context : Context)

/-- An action hands over from the front what was pending, and what it reports is added behind. -/
theorem drained_append_pending (action : Action) :
    action.drained context ++ (action.perform context).2.pending =
      context.pending ++ action.reported context := by
  cases action with
  | report diagnostic => rfl
  | step options own =>
      cases own with
      | uniqueName hint =>
          simp only [drained, reported, perform, Session.perform, Session.allocate]
          split <;> exact (List.append_nil _).symm
      | report fault => rfl
      | take => rfl
      | takeErrors => rfl
      | location => exact (List.append_nil _).symm
      | expand kind tokens =>
          have after := (perform_expand options context kind tokens).1
          change [] ++ (Session.perform options (.expand kind tokens) context).2.pending = _
          rw [after, Builtin.pending_expandTokens]
          rfl
      | render kind tokens =>
          have after := Builtin.context_render kind options tokens context
          change _ ++ (kind.render options tokens context).2.pending = _
          rw [after]
          exact List.append_nil _

/-- The trace notes what an action reports, and nothing else as a report. -/
theorem trace_perform (action : Action) :
    (action.perform context).2.trace.filterMap Trace.Event.report? =
      context.trace.filterMap Trace.Event.report? ++
        (action.reported context).map Diagnostic.message := by
  cases action with
  | report diagnostic => exact List.filterMap_append
  | step options own =>
      cases own with
      | uniqueName hint =>
          simp only [reported, perform, Session.perform, Session.allocate]
          split <;> exact (List.append_nil _).symm
      | report fault => exact List.filterMap_append
      | take => exact (List.append_nil _).symm
      | takeErrors => exact (List.append_nil _).symm
      | location => exact (List.append_nil _).symm
      | expand kind tokens =>
          have after := (perform_expand options context kind tokens).1
          change (Session.perform options (.expand kind tokens) context).2.trace.filterMap _ = _
          rw [after]
          exact Builtin.trace_expandTokens kind options tokens context
      | render kind tokens =>
          have after := Builtin.context_render kind options tokens context
          change (kind.render options tokens context).2.trace.filterMap _ = _
          rw [after]
          exact Builtin.trace_expandTokens kind options tokens context

/-- The answer to an action shows what is handed over with it. -/
theorem delivers_perform (action : Action) :
    Delivers action (action.drained context) (action.perform context).1 := by
  cases action with
  | report diagnostic => exact .nothing .reported (by simp) (by simp) (by simp)
  | step options own =>
      cases own with
      | uniqueName hint =>
          simp only [drained, perform, Session.perform, Session.allocate]
          split <;> exact .nothing _ (by simp) (by simp) (by simp)
      | report fault => exact .nothing .reported (by simp) (by simp) (by simp)
      | take => exact .taken context.pending
      | takeErrors => exact .errors context.pending
      | location => exact .nothing (.located context.location) (by simp) (by simp) (by simp)
      | expand kind tokens =>
          simp only [drained, perform, Session.perform]
          split <;> exact .nothing _ (by simp) (by simp) (by simp)
      | render kind tokens =>
          have printed := Builtin.printed_render kind options tokens context
          rw [Builtin.pending_expandTokens] at printed
          exact .rendered _ printed

end Action

/-- A context with what was reported in it and what was handed over. -/
structure Ledger where
  context : Context
  reported : List Diagnostic
  drained : List Diagnostic

namespace Ledger

/-- Nothing has happened yet. -/
def opening (context : Context) : Ledger := ⟨context, [], []⟩

/-- Perform an action and keep account of it. -/
def record (ledger : Ledger) (action : Action) : Ledger where
  context := (action.perform ledger.context).2
  reported := ledger.reported ++ action.reported ledger.context
  drained := ledger.drained ++ action.drained ledger.context

/-- The account after some actions in a row. -/
def after (context : Context) (actions : List Action) : Ledger :=
  actions.foldl record (opening context)

/-- What was handed over and what is pending make up what was reported, and the trace agrees. -/
structure Balanced (ledger : Ledger) : Prop where
  conserved : ledger.drained ++ ledger.context.pending = ledger.reported
  traced : ledger.context.trace.filterMap Trace.Event.report? =
    ledger.reported.map Diagnostic.message

theorem Balanced.record {ledger : Ledger} (balanced : ledger.Balanced) (action : Action) :
    (ledger.record action).Balanced where
  conserved := calc
    (ledger.drained ++ action.drained ledger.context) ++ (action.perform ledger.context).2.pending
        = ledger.drained ++ (ledger.context.pending ++ action.reported ledger.context) := by
          rw [List.append_assoc, action.drained_append_pending]
    _ = ledger.reported ++ action.reported ledger.context := by
          rw [← List.append_assoc, balanced.conserved]
  traced := by
    have traced := action.trace_perform ledger.context
    rw [balanced.traced, ← List.map_append] at traced
    exact traced

theorem Balanced.foldl {ledger : Ledger} (balanced : ledger.Balanced) (actions : List Action) :
    (actions.foldl Ledger.record ledger).Balanced := by
  induction actions generalizing ledger with
  | nil => exact balanced
  | cons action rest ih => exact ih (balanced.record action)

/-- The account balances whatever is done with a fresh context. -/
theorem balanced_after (site : Span) (place : Option (String × Nat)) (actions : List Action) :
    (after { site, place } actions).Balanced := by
  have opened : (opening { site, place }).Balanced := ⟨rfl, rfl⟩
  exact opened.foldl actions

end Ledger

theorem hasDiagnostics_iff (context : Context) :
    context.hasDiagnostics = true ↔ context.pending ≠ [] := by
  simp [Context.hasDiagnostics]

/-- No diagnostic is lost, repeated or put out of order: at every point of a session those handed
over and those pending make up those reported. Expanding reports one exactly if there is no
replacement, which happens to colors only, and a failure leaves nothing behind. -/
theorem diagnostics_conserved (site : Span) (place : Option (String × Nat))
    (actions : List Action) :
    let ledger := Ledger.after { site, place } actions
    (ledger.drained ++ ledger.context.pending = ledger.reported ∧
      ledger.context.trace.filterMap Trace.Event.report? =
        ledger.reported.map Diagnostic.message) ∧
    (ledger.context.hasDiagnostics = true ↔ ledger.context.pending ≠ []) ∧
    (∀ next : Action, next.Delivers (next.drained ledger.context)
      (next.perform ledger.context).1) ∧
    ∀ (kind : Builtin) (options : Options) (invocation : Invocation) (context : Context),
      kind.Accounted context ((kind.expand options invocation).runIn context).2
        ((kind.expand options invocation).runIn context).1 := by
  intro ledger
  have balanced : ledger.Balanced := Ledger.balanced_after site place actions
  exact ⟨⟨balanced.conserved, balanced.traced⟩, hasDiagnostics_iff ledger.context,
    fun next => next.delivers_perform ledger.context, Builtin.accounted_expand⟩

end Session

end MacroExpansion
