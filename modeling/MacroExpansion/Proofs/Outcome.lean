import MacroExpansion.Session

/-!
# What an expansion comes to

An expander is a computation in a context. Here its run is written out once: what it answers and
what it leaves behind, as a function of the invocation and of the little of the context that it
looks at, which is the place of the invocation and the number of names asked for before. Nothing
depends on the pending diagnostics or on the trace; both only grow.

Everything about renderings and sessions is derived from these equations, and no later proof opens
an expander again.
-/

namespace MacroExpansion

/-- What an expansion adds to its context. -/
structure Effect where
  /-- The diagnostics it reports, in order. -/
  reports : List Diagnostic
  /-- How many names it asks for. -/
  names : Nat
  /-- What happens, in order. -/
  events : List Trace.Event

namespace Context

/-- The context after an expansion. -/
def apply (context : Context) (effect : Effect) : Context :=
  { context with
    pending := context.pending ++ effect.reports
    names := context.names + effect.names
    trace := context.trace ++ effect.events }

variable (context : Context) (effect : Effect)

@[simp] theorem site_apply : (context.apply effect).site = context.site := rfl

@[simp] theorem place_apply : (context.apply effect).place = context.place := rfl

@[simp] theorem pending_apply :
    (context.apply effect).pending = context.pending ++ effect.reports := rfl

@[simp] theorem names_apply :
    (context.apply effect).names = context.names + effect.names := rfl

@[simp] theorem trace_apply :
    (context.apply effect).trace = context.trace ++ effect.events := rfl

theorem note_eq_apply (event : Trace.Event) :
    context.note event = context.apply ⟨[], 0, [event]⟩ := by
  simp [note, apply]

theorem report_eq_apply (diagnostic : Diagnostic) :
    context.report diagnostic =
      context.apply ⟨[diagnostic], 0, [.reported diagnostic.message]⟩ := by
  simp [report, apply]

@[simp] theorem apply_apply (first second : Effect) :
    (context.apply first).apply second =
      context.apply ⟨first.reports ++ second.reports, first.names + second.names,
        first.events ++ second.events⟩ := by
  simp [apply, Nat.add_assoc]

end Context

namespace Expand

variable {α β : Type}

/-- Running one computation after another. A failure of the first ends both, and its context
stays. -/
theorem runIn_bind (first : Expand α) (next : α → Expand β) (context : Context) :
    (first >>= next).runIn context =
      match first.runIn context with
      | (.ok value, after) => (next value).runIn after
      | (.error failure, after) => (.error failure, after) := by
  change ExceptT.bindCont next (first.runIn context).1 (first.runIn context).2 = _
  rcases first.runIn context with ⟨_ | _, _⟩ <;> rfl

@[simp] theorem runIn_pure (value : α) (context : Context) :
    (pure value : Expand α).runIn context = (.ok value, context) := rfl

@[simp] theorem runIn_fail (misuse : Misuse) (span : Span) (context : Context) :
    (fail misuse span : Expand α).runIn context = (.error (.misuse misuse span), context) := rfl

@[simp] theorem runIn_throw (failure : Failure) (context : Context) :
    (throw failure : Expand α).runIn context = (.error failure, context) := rfl

@[simp] theorem runIn_ofExcept (result : Except Failure α) (context : Context) :
    (ofExcept result).runIn context = (result, context) := rfl

@[simp] theorem runIn_get (context : Context) :
    (get : Expand Context).runIn context = (.ok context, context) := rfl

@[simp] theorem runIn_note (event : Trace.Event) (context : Context) :
    (note event).runIn context = (.ok (), context.note event) := rfl

@[simp] theorem runIn_report (fault : ColorFault) (span : Span) (context : Context) :
    (report fault span).runIn context = (.ok (), context.report ⟨fault, span⟩) := rfl

@[simp] theorem runIn_allocate (hint : String) (context : Context) :
    (allocate hint).runIn context =
      (.ok (Context.uniqueName hint context.names), (context.allocate hint).2) := rfl

end Expand

namespace Unwrap

/-- What an unwrapping comes to, and what it adds. -/
def outcome (options : Options) (site : Span) (location : Location) (invocation : Invocation) :
    Except Failure (List Stmt) × Effect :=
  let entered : Trace.Event := .unwrap invocation.size options.strategy
  match parts options.module site location invocation with
  | .error failure => (.error failure, ⟨[], 0, [entered]⟩)
  | .ok (guards, body) =>
    ((body.emit options.strategy).map (guards ++ ·),
      ⟨[], 0, [entered, .guards guards.length]⟩)

theorem runIn_expand (options : Options) (invocation : Invocation) (context : Context) :
    (expand options invocation).runIn context =
      ((outcome options context.site context.location invocation).1,
        context.apply (outcome options context.site context.location invocation).2) := by
  have location (event : Trace.Event) : (context.note event).location = context.location := rfl
  have site (event : Trace.Event) : (context.note event).site = context.site := rfl
  simp only [expand, Expand.runIn_bind, Expand.runIn_note, Expand.runIn_get,
    Expand.runIn_ofExcept, location, site, outcome]
  cases parts options.module context.site context.location invocation with
  | error failure => simp [Context.note_eq_apply]
  | ok found =>
      obtain ⟨guards, body⟩ := found
      simp only [Expand.runIn_pure, Context.note_eq_apply, Context.apply_apply]
      cases body.emit options.strategy <;> rfl

end Unwrap

namespace UniqueName

/-- What a unique name comes to when the given number of names have been asked for, and what it
adds. -/
def outcome (number : Nat) (invocation : Invocation) : Except Failure (List Stmt) × Effect :=
  match excess? invocation with
  | some span => (.error (.misuse .unexpectedArgument span), ⟨[], 0, [.uniqueName]⟩)
  | none =>
    let name := Context.uniqueName hint number
    (.ok [placeholder name], ⟨[], 1, [.uniqueName, .allocated name]⟩)

theorem runIn_expand (invocation : Invocation) (context : Context) :
    (expand invocation).runIn context =
      ((outcome context.names invocation).1,
        context.apply (outcome context.names invocation).2) := by
  simp only [expand, Expand.runIn_bind, Expand.runIn_note, outcome]
  cases excess? invocation with
  | some span => simp [Context.note_eq_apply]
  | none =>
      simp only [Expand.runIn_bind, Expand.runIn_allocate, Expand.runIn_note, Expand.runIn_pure]
      simp [Context.allocate, Context.note, Context.apply]

end UniqueName

namespace Color

/-- The events up to the point where the literal is looked at. -/
def entering (invocation : Invocation) : List Trace.Event :=
  .color invocation.size ::
    if 2 < invocation.size then [.ignoring (invocation.size - 2)] else []

/-- What the arguments of a color amount to: its channels and the call, or what is wrong. -/
def verdict (module : Path) (site : Span) (invocation : Invocation) :
    Except Diagnostic (Rgb × Expr) :=
  match chooseArguments invocation.arguments with
  | none => .error ⟨.requiresArgument, site⟩
  | some (space, expr) =>
    match expr.integerLiteral? with
    | none => .error ⟨.requiresIntegerLiteral, expr.span⟩
    | some (text, place) =>
      match Rgb.ofLiteral? text with
      | none => .error ⟨.malformedHexadecimal text, place⟩
      | some rgb => .ok (rgb, construct module space rgb place)

/-- What a color comes to, and what it adds. -/
def outcome (module : Path) (site : Span) (invocation : Invocation) : Option Expr × Effect :=
  match verdict module site invocation with
  | .error diagnostic =>
    (none, ⟨[diagnostic], 0, entering invocation ++ [.reported diagnostic.message]⟩)
  | .ok (rgb, call) => (some call, ⟨[], 0, entering invocation ++ [.validated rgb]⟩)

theorem runIn_refuse (fault : ColorFault) (span : Span) (context : Context) :
    (refuse fault span).runIn context = (.ok none, context.report ⟨fault, span⟩) := by
  simp only [refuse, Expand.runIn_bind, Expand.runIn_report, Expand.runIn_pure]

theorem runIn_expandLiteral (module : Path) (space : Option Expr) (expr : Expr)
    (context : Context) :
    (expandLiteral module space expr).runIn context =
      match expr.integerLiteral? with
      | none => (.ok none, context.report ⟨.requiresIntegerLiteral, expr.span⟩)
      | some (text, place) =>
        match Rgb.ofLiteral? text with
        | none => (.ok none, context.report ⟨.malformedHexadecimal text, place⟩)
        | some rgb =>
          (.ok (some (construct module space rgb place)), context.note (.validated rgb)) := by
  unfold expandLiteral
  cases expr.integerLiteral? with
  | none => exact runIn_refuse _ _ _
  | some found =>
      obtain ⟨text, place⟩ := found
      dsimp only
      cases Rgb.ofLiteral? text with
      | none => exact runIn_refuse _ _ _
      | some rgb => simp only [Expand.runIn_bind, Expand.runIn_note, Expand.runIn_pure]

theorem runIn_expand (module : Path) (invocation : Invocation) (context : Context) :
    (expand module invocation).runIn context =
      (.ok (outcome module context.site invocation).1,
        context.apply (outcome module context.site invocation).2) := by
  have empty (h : chooseArguments invocation.arguments = none) : invocation.size = 0 := by
    rw [← invocation.length_arguments]
    match arguments : invocation.arguments with
    | [] => rfl
    | [_] => simp [arguments, chooseArguments] at h
    | _ :: _ :: _ => simp [arguments, chooseArguments] at h
  simp only [expand, Expand.runIn_bind, Expand.runIn_note, outcome, verdict, entering]
  cases chosen : chooseArguments invocation.arguments with
  | none =>
      simp only [Expand.runIn_bind, Expand.runIn_get, runIn_refuse, empty chosen]
      simp [Context.note_eq_apply, Context.report_eq_apply]
  | some found =>
      obtain ⟨space, expr⟩ := found
      by_cases more : 2 < invocation.size
      all_goals
        simp only [more, if_true, if_false, Expand.runIn_bind, Expand.runIn_note,
          runIn_expandLiteral]
        split
        · simp [Context.note_eq_apply, Context.report_eq_apply]
        · split <;> simp [Context.note_eq_apply, Context.report_eq_apply]

end Color

namespace Builtin

/-- What an invocation of the macro comes to, and what it adds. -/
def outcome (kind : Builtin) (options : Options) (invocation : Invocation) (site : Span)
    (location : Location) (number : Nat) : Except Failure Expansion × Effect :=
  let entered (effect : Effect) : Effect :=
    { effect with events := .expanding kind :: effect.events }
  match kind with
  | color =>
    let found := Color.outcome options.module site invocation
    (.ok (found.1.elim .empty .expr), entered found.2)
  | unwrap =>
    let found := Unwrap.outcome options site location invocation
    (found.1.map .statements, entered found.2)
  | uniqueName =>
    let found := UniqueName.outcome number invocation
    (found.1.map .statements, entered found.2)

theorem runIn_expand (kind : Builtin) (options : Options) (invocation : Invocation)
    (context : Context) :
    (kind.expand options invocation).runIn context =
      ((kind.outcome options invocation context.site context.location context.names).1,
        context.apply
          (kind.outcome options invocation context.site context.location context.names).2) := by
  have location (event : Trace.Event) : (context.note event).location = context.location := rfl
  have site (event : Trace.Event) : (context.note event).site = context.site := rfl
  have entered (event : Trace.Event) (effect : Effect) :
      (context.note event).apply effect =
        context.apply { effect with events := event :: effect.events } := by
    simp [Context.note_eq_apply]
  cases kind with
  | color =>
      simp only [expand, outcome, Expand.runIn_bind, Expand.runIn_note, Color.runIn_expand, site,
        entered]
      cases (Color.outcome options.module context.site invocation).1 <;> rfl
  | unwrap =>
      simp only [expand, outcome, Expand.runIn_bind, Expand.runIn_note, Unwrap.runIn_expand, site,
        location, entered]
      cases (Unwrap.outcome options context.site context.location invocation).1 <;> rfl
  | uniqueName =>
      simp only [expand, outcome, Expand.runIn_bind, Expand.runIn_note, UniqueName.runIn_expand,
        Context.names_note, entered]
      cases (UniqueName.outcome context.names invocation).1 <;> rfl

/-- What tokens come to as the arguments of the macro, and what is added. Tokens that cannot be read
add nothing. -/
def outcomeOfTokens (kind : Builtin) (options : Options) (tokens : Tokens) (site : Span)
    (location : Location) (number : Nat) : Except Failure Expansion × Effect :=
  match Invocation.ofTokens tokens with
  | .error error => (.error (.unreadable error), ⟨[], 0, []⟩)
  | .ok invocation => kind.outcome options invocation site location number

theorem runIn_expandTokens (kind : Builtin) (options : Options) (tokens : Tokens)
    (context : Context) :
    (kind.expandTokens options tokens).runIn context =
      ((kind.outcomeOfTokens options tokens context.site context.location context.names).1,
        context.apply (kind.outcomeOfTokens options tokens context.site context.location
          context.names).2) := by
  unfold expandTokens outcomeOfTokens
  cases Invocation.ofTokens tokens with
  | error error => simp [Context.apply]
  | ok invocation => exact runIn_expand kind options invocation context

theorem runIn_expandTokens_of_read {tokens : Tokens} {invocation : Invocation}
    (read : Invocation.ofTokens tokens = .ok invocation) (kind : Builtin) (options : Options)
    (context : Context) :
    (kind.expandTokens options tokens).runIn context =
      ((kind.outcome options invocation context.site context.location context.names).1,
        context.apply
          (kind.outcome options invocation context.site context.location context.names).2) := by
  rw [expandTokens, read]
  exact runIn_expand kind options invocation context

end Builtin

end MacroExpansion
