import MacroExpansion.Proofs.Conservation

/-!
# Expansions do not depend on what happened before

All actions of a session share one context, but an expansion looks only at the place of the
invocation, which never changes, and a unique name also at the number of names asked for before. So
an expansion comes to the same at every point of a session, up to that number, and so does what is
printed where no diagnostic is pending.

Hence actions can be taken out of a session. Those that ask for no name do not change the names that
the others are given, and those that neither report nor hand over a diagnostic do not change what
the others hand over.
-/

namespace MacroExpansion

namespace Builtin

/-- Only an expansion that asks for a name looks at the number of names. -/
theorem outcomeOfTokens_of_no_hint {kind : Builtin} {tokens : Tokens}
    (idle : kind.hint? tokens = none) (options : Options) (site : Span) (location : Location)
    (number other : Nat) :
    kind.outcomeOfTokens options tokens site location number =
      kind.outcomeOfTokens options tokens site location other := by
  unfold outcomeOfTokens
  cases read : Invocation.ofTokens tokens with
  | error error => rfl
  | ok invocation =>
      cases kind with
      | color => rfl
      | unwrap => rfl
      | uniqueName =>
          cases excess : UniqueName.excess? invocation with
          | some span => simp only [outcome, UniqueName.outcome, excess]
          | none =>
              have asks := hint?_eq_some_iff.mpr ⟨rfl, rfl, invocation, read, excess⟩
              rw [idle] at asks
              cases asks

/-- With nothing pending, an expansion that asks for a name is printed with it. -/
theorem render_of_hint {kind : Builtin} {tokens : Tokens} {hint : String}
    (asks : kind.hint? tokens = some hint) (options : Options) {context : Context}
    (quiet : context.pending = []) :
    (kind.render options tokens context).1 =
      (UniqueName.placeholder (Context.uniqueName hint context.names)).tokens := by
  have printed := printed_render kind options tokens context
  rw [runIn_expandTokens_of_hint asks, Context.pending_apply, quiet] at printed
  exact (printed.unique (.expansion _ rfl)).trans (List.append_nil _)

section Congr

variable {context other : Context} (site : context.site = other.site)
  (place : context.place = other.place)
include site place

theorem location_congr : context.location = other.location := by
  rw [Context.location, Context.location, site, place]

/-- What an expansion without a name comes to depends on the place of the invocation only. -/
theorem result_congr {kind : Builtin} {tokens : Tokens} (idle : kind.hint? tokens = none)
    (options : Options) :
    ((kind.expandTokens options tokens).runIn context).1 =
      ((kind.expandTokens options tokens).runIn other).1 := by
  rw [runIn_expandTokens, runIn_expandTokens, site, location_congr site place,
    outcomeOfTokens_of_no_hint idle options _ _ context.names other.names]

/-- What an expansion reports depends on the place of the invocation only. -/
theorem reports_congr (kind : Builtin) (options : Options) (tokens : Tokens) :
    kind.reports options tokens context = kind.reports options tokens other := by
  rw [reports_eq, reports_eq, site, location_congr site place]
  cases asks : kind.hint? tokens with
  | none => rw [outcomeOfTokens_of_no_hint asks options _ _ context.names other.names]
  | some hint =>
      -- A unique name reports nothing, whatever its number.
      obtain ⟨rfl, -, invocation, read, nothing⟩ := hint?_eq_some_iff.mp asks
      simp only [outcomeOfTokens, read, outcome, UniqueName.outcome, nothing]

end Congr

end Builtin

namespace Session

namespace Action

variable (context : Context)

theorem place_perform (action : Action) :
    (action.perform context).2.site = context.site ∧
      (action.perform context).2.place = context.place := by
  cases action with
  | report diagnostic => exact ⟨rfl, rfl⟩
  | step options own =>
      cases own with
      | uniqueName hint =>
          simp only [perform, Session.perform, Session.allocate]
          split <;> exact ⟨rfl, rfl⟩
      | report fault => exact ⟨rfl, rfl⟩
      | take => exact ⟨rfl, rfl⟩
      | takeErrors => exact ⟨rfl, rfl⟩
      | location => exact ⟨rfl, rfl⟩
      | expand kind tokens =>
          have after := (perform_expand options context kind tokens).1
          rw [Builtin.runIn_expandTokens] at after
          rw [perform, after]
          exact ⟨rfl, rfl⟩
      | render kind tokens =>
          have after := Builtin.context_render kind options tokens context
          rw [Builtin.runIn_expandTokens] at after
          change (kind.render options tokens context).2.site = _ ∧
            (kind.render options tokens context).2.place = _
          rw [after]
          exact ⟨rfl, rfl⟩

end Action

/-- The context after actions in a row. -/
def reached (context : Context) (actions : List Action) : Context :=
  actions.foldl (fun context action => (action.perform context).2) context

/-- The number of actions that ask for a name. -/
def attempts (actions : List Action) : Nat := actions.countP fun action => action.hint?.isSome

/-- A session stays at the place of its invocation and counts the requests for names. -/
theorem reached_spec (context : Context) (actions : List Action) :
    (reached context actions).site = context.site ∧
      (reached context actions).place = context.place ∧
      (reached context actions).names = context.names + attempts actions := by
  induction actions generalizing context with
  | nil => exact ⟨rfl, rfl, rfl⟩
  | cons action rest ih =>
      obtain ⟨site, place, names⟩ := ih (action.perform context).2
      obtain ⟨sameSite, samePlace⟩ := action.place_perform context
      have counted := (action.names_perform context).1
      refine ⟨site.trans sameSite, place.trans samePlace, names.trans ?_⟩
      rw [counted, attempts, attempts, List.countP_cons]
      omega

/-- Two answers to the same call that are the same, except that a unique name has the number of
requests before it instead of zero. -/
inductive SameButNumber {α : Type} (kind : Builtin) (tokens : Tokens) (requests : Nat)
    (binding : String → α) : α → α → Prop where
  | same (answer : α) (idle : kind.hint? tokens = none) :
      SameButNumber kind tokens requests binding answer answer
  | numbered (asks : kind.hint? tokens = some "unique") :
      SameButNumber kind tokens requests binding (binding "__unique_0")
        (binding ("__unique_" ++ toString requests))

/-- The names of the macro's own hint. -/
theorem uniqueName_unique (number : Nat) :
    Context.uniqueName "unique" number = "__unique_" ++ toString number := by
  rw [Context.uniqueName_eq]
  rfl

theorem uniqueName_unique_zero : Context.uniqueName "unique" 0 = "__unique_0" := rfl

section Later

variable (site : Span) (place : Option (String × Nat)) (earlier : List Action) (options : Options)
  (kind : Builtin) (tokens : Tokens)

/-- What is expanded later in a session comes to what it comes to at its beginning. -/
theorem expand_later :
    SameButNumber kind tokens (attempts earlier)
      (fun name => .ok (.statements [UniqueName.placeholder name]))
      ((kind.expandTokens options tokens).runIn { site, place }).1
      ((kind.expandTokens options tokens).runIn (reached { site, place } earlier)).1 := by
  obtain ⟨sameSite, samePlace, names⟩ := reached_spec { site, place } earlier
  cases asks : kind.hint? tokens with
  | none =>
      rw [Builtin.result_congr sameSite samePlace asks]
      exact .same _ asks
  | some hint =>
      obtain ⟨-, rfl, -⟩ := Builtin.hint?_eq_some_iff.mp asks
      rw [Builtin.runIn_expandTokens_of_hint asks, Builtin.runIn_expandTokens_of_hint asks, names,
        Nat.zero_add, uniqueName_unique_zero, uniqueName_unique]
      exact .numbered asks

/-- What is printed later in a session, with nothing pending, is what is printed at its
beginning. -/
theorem render_later (quiet : (reached { site, place } earlier).pending = []) :
    SameButNumber kind tokens (attempts earlier) (fun name => (UniqueName.placeholder name).tokens)
      (kind.render options tokens { site, place }).1
      (kind.render options tokens (reached { site, place } earlier)).1 := by
  obtain ⟨sameSite, samePlace, names⟩ := reached_spec { site, place } earlier
  cases asks : kind.hint? tokens with
  | none =>
      have first := Builtin.printed_render kind options tokens { site, place }
      have later := Builtin.printed_render kind options tokens (reached { site, place } earlier)
      rw [Builtin.pending_expandTokens] at first later
      rw [quiet, Builtin.reports_congr sameSite samePlace,
        Builtin.result_congr sameSite samePlace asks] at later
      rw [later.unique first]
      exact .same _ asks
  | some hint =>
      obtain ⟨-, rfl, -⟩ := Builtin.hint?_eq_some_iff.mp asks
      rw [Builtin.render_of_hint asks options rfl, Builtin.render_of_hint asks options quiet, names,
        Nat.zero_add, uniqueName_unique_zero, uniqueName_unique]
      exact .numbered asks

end Later

/-- An action and the context in which it is performed. -/
structure Visit where
  context : Context
  action : Action

namespace Visit

/-- The answer to the action. -/
def answer (visit : Visit) : Answer := (visit.action.perform visit.context).1

/-- The names that the action hands out. -/
def names (visit : Visit) : List String :=
  handed visit.context visit.answer (visit.action.perform visit.context).2

/-- The diagnostics that the action reports. -/
def reported (visit : Visit) : List Diagnostic := visit.action.reported visit.context

/-- The diagnostics that the action hands over. -/
def drained (visit : Visit) : List Diagnostic := visit.action.drained visit.context

end Visit

/-- The actions with the given mark, each in the context that it meets in the whole session. -/
def visits (mark : Bool) : Context → List (Bool × Action) → List Visit
  | _, [] => []
  | context, (own, action) :: rest =>
    let later := visits mark (action.perform context).2 rest
    if own = mark then ⟨context, action⟩ :: later else later

/-- Taking out actions that ask for no name leaves the names of the others. -/
theorem names_of_thinned {context other : Context} (names : context.names = other.names)
    (marked : List (Bool × Action))
    (idle : ∀ visit ∈ visits false context marked, visit.action.hint? = none) :
    (visits true context marked).map Visit.names =
      (visits true other (marked.filter (·.1))).map Visit.names := by
  induction marked generalizing context other with
  | nil => rfl
  | cons entry rest ih =>
      obtain ⟨own, action⟩ := entry
      cases own with
      | true =>
          obtain ⟨counted, given⟩ := action.names_perform context
          obtain ⟨otherCounted, otherGiven⟩ := action.names_perform other
          have same : Visit.names ⟨context, action⟩ = Visit.names ⟨other, action⟩ := by
            rw [Visit.names, Visit.names, Visit.answer, Visit.answer, given, otherGiven, names]
          have further := ih (counted.trans (names ▸ otherCounted.symm)) idle
          change Visit.names ⟨context, action⟩ :: _ = Visit.names ⟨other, action⟩ :: _
          rw [same, further]
      | false =>
          have unasked : action.hint? = none := idle ⟨context, action⟩ (.head _)
          have kept := Action.names_of_no_hint unasked context
          exact ih (kept.trans names) fun visit later => idle visit (.tail _ later)

/-- What matters for diagnostics of a context: where it is, and what is pending. -/
structure SameDiagnostics (context other : Context) : Prop where
  site : context.site = other.site
  place : context.place = other.place
  pending : context.pending = other.pending

namespace SameDiagnostics

variable {context other : Context} (same : SameDiagnostics context other)
include same

theorem reported_eq (action : Action) : action.reported context = action.reported other := by
  cases action with
  | report diagnostic => rfl
  | step options own =>
      cases own with
      | report fault => rw [Action.reported, Action.reported, same.site]
      | expand kind tokens => exact Builtin.reports_congr same.site same.place kind options tokens
      | render kind tokens => exact Builtin.reports_congr same.site same.place kind options tokens
      | _ => rfl

theorem drained_eq (action : Action) : action.drained context = action.drained other := by
  cases action with
  | report diagnostic => rfl
  | step options own =>
      cases own with
      | take => exact same.pending
      | takeErrors => exact same.pending
      | render kind tokens =>
          rw [Action.drained, Action.drained, same.pending,
            Builtin.reports_congr same.site same.place]
      | _ => rfl

/-- The same action keeps two such contexts alike. -/
theorem perform (action : Action) :
    SameDiagnostics (action.perform context).2 (action.perform other).2 where
  site := by rw [(action.place_perform context).1, (action.place_perform other).1, same.site]
  place := by rw [(action.place_perform context).2, (action.place_perform other).2, same.place]
  pending := by
    have one := action.drained_append_pending context
    have two := action.drained_append_pending other
    rw [same.drained_eq action, same.pending, same.reported_eq action, ← two] at one
    exact List.append_cancel_left one

/-- An action that neither reports nor hands over leaves everything that matters. -/
theorem skip {action : Action} (quiet : action.reported context = [])
    (kept : action.drained context = []) :
    SameDiagnostics (action.perform context).2 other where
  site := (action.place_perform context).1.trans same.site
  place := (action.place_perform context).2.trans same.place
  pending := by
    have moved := action.drained_append_pending context
    rw [quiet, kept, List.nil_append, List.append_nil] at moved
    exact moved.trans same.pending

end SameDiagnostics

/-- Taking out actions that neither report nor hand over a diagnostic leaves what the others hand
over. -/
theorem drained_of_thinned {context other : Context} (same : SameDiagnostics context other)
    (marked : List (Bool × Action))
    (idle : ∀ visit ∈ visits false context marked, visit.reported = [] ∧ visit.drained = []) :
    (visits true context marked).map Visit.drained =
      (visits true other (marked.filter (·.1))).map Visit.drained := by
  induction marked generalizing context other with
  | nil => rfl
  | cons entry rest ih =>
      obtain ⟨own, action⟩ := entry
      cases own with
      | true =>
          have further := ih (same.perform action) idle
          change action.drained context :: _ = action.drained other :: _
          rw [same.drained_eq action, further]
      | false =>
          obtain ⟨quiet, kept⟩ := idle ⟨context, action⟩ (.head _)
          exact ih (same.skip quiet kept) fun visit later => idle visit (.tail _ later)

/-- At every point of a session an expansion comes to what it comes to in a fresh context, up to the
number in a unique name, and so does what is printed where nothing is pending. So actions without a
request can be taken out without changing a name, and actions without a diagnostic without changing
what is handed over. -/
theorem steps_independent_of_history (site : Span) (place : Option (String × Nat)) :
    let fresh : Context := { site, place }
    (∀ (earlier : List Action) (options : Options) (kind : Builtin) (tokens : Tokens),
      SameButNumber kind tokens (attempts earlier)
        (fun name => .ok (.statements [UniqueName.placeholder name]))
        ((kind.expandTokens options tokens).runIn fresh).1
        ((kind.expandTokens options tokens).runIn (reached fresh earlier)).1 ∧
      ((reached fresh earlier).pending = [] →
        SameButNumber kind tokens (attempts earlier)
          (fun name => (UniqueName.placeholder name).tokens)
          (kind.render options tokens fresh).1
          (kind.render options tokens (reached fresh earlier)).1)) ∧
    ∀ marked : List (Bool × Action),
      ((∀ visit ∈ visits false fresh marked, visit.action.hint? = none) →
        (visits true fresh marked).map Visit.names =
          (visits true fresh (marked.filter (·.1))).map Visit.names) ∧
      ((∀ visit ∈ visits false fresh marked, visit.reported = [] ∧ visit.drained = []) →
        (visits true fresh marked).map Visit.drained =
          (visits true fresh (marked.filter (·.1))).map Visit.drained) ∧
      ∀ visit ∈ visits true fresh marked, visit.action.Delivers visit.drained visit.answer := by
  intro fresh
  refine ⟨fun earlier options kind tokens => ⟨?_, ?_⟩, fun marked => ⟨?_, ?_, ?_⟩⟩
  · exact expand_later site place earlier options kind tokens
  · exact render_later site place earlier options kind tokens
  · exact names_of_thinned rfl marked
  · exact drained_of_thinned ⟨rfl, rfl, rfl⟩ marked
  · exact fun visit _ => visit.action.delivers_perform visit.context

end Session

end MacroExpansion
