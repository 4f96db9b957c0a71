import MacroExpansion.Proofs.Render

/-!
# Unique names never repeat

A context numbers the requests for a name and puts the number behind the last underscore of the
name. Digits are no underscores, so the number can be read off the name whatever the hint looks
like, and since no number is used twice, no name is.

The main statement is about actions in one context: which of them ask for a name, what each of these
is given or why it is refused, and that all names handed out are different. A name counts as handed
out as soon as the context gives it, even if it is not printed.
-/

namespace MacroExpansion

namespace Identifier

theorem isContinue_of_isDigit {c : Char} (digit : c.isDigit = true) : isContinue c = true := by
  have ascii : c.toNat < 128 := by
    simp only [Char.isDigit, Bool.and_eq_true, decide_eq_true_eq] at digit
    exact Nat.lt_of_le_of_lt (UInt32.le_iff_toNat_le.mp digit.2) (by decide)
  simp [isContinue, ascii, Char.isAlphanum, digit]

end Identifier

namespace Context

/-- The number in a name: the digits behind its last underscore. -/
def numberOf (name : String) : Nat :=
  Nat.ofDigitChars 10 (name.toList.reverse.takeWhile (· ≠ '_')).reverse 0

theorem toList_uniqueName (hint : String) (number : Nat) :
    (uniqueName hint number).toList =
      '_' :: '_' :: (hint.toList ++ '_' :: Nat.toDigits 10 number) := by
  simp [uniqueName, Layout.numeral]

/-- The number of a name does not depend on its hint. -/
theorem numberOf_uniqueName (hint : String) (number : Nat) :
    numberOf (uniqueName hint number) = number := by
  have digits : ∀ c ∈ (Nat.toDigits 10 number).reverse, decide (c ≠ '_') = true := by
    intro c member
    rw [List.mem_reverse] at member
    exact decide_eq_true fun same => Nat.underscore_not_in_toDigits (same ▸ member)
  have split : (uniqueName hint number).toList.reverse =
      (Nat.toDigits 10 number).reverse ++ '_' :: (hint.toList.reverse ++ ['_', '_']) := by
    simp [toList_uniqueName]
  rw [numberOf, split, List.takeWhile_append_of_pos digits]
  simp

theorem uniqueName_eq (hint : String) (number : Nat) :
    uniqueName hint number = "__" ++ hint ++ "_" ++ toString number := by
  rw [uniqueName, Layout.numeral, Nat.toString_eq_ofList_toDigits]

/-- A name can be used if and only if its hint can stand inside one. -/
theorem isIdentifier_uniqueName (hint : String) (number : Nat) :
    Identifier.isIdentifier (uniqueName hint number).toList =
      hint.toList.all Identifier.isContinue := by
  have digits : (Nat.toDigits 10 number).all Identifier.isContinue = true := by
    rw [List.all_eq_true]
    intro c member
    exact Identifier.isContinue_of_isDigit
      (Nat.isDigit_of_mem_toDigits (by decide) (by decide) member)
  have underscore : Identifier.isContinue '_' = true := by decide
  have start : Identifier.isStart '_' = true := by decide
  rw [toList_uniqueName]
  simp [Identifier.isIdentifier, digits, underscore, start]

theorem ofText?_uniqueName (hint : String) (number : Nat) :
    NameFault.ofText? (uniqueName hint number) =
      if hint.toList.all Identifier.isContinue then none
      else some (.notIdentifier (uniqueName hint number)) := by
  have opening : Char.isDigit '_' = false := by decide
  rw [NameFault.ofText?, isIdentifier_uniqueName, toList_uniqueName]
  simp [opening]

end Context

/-- The name that an event says was handed out. -/
def Trace.Event.name? : Trace.Event → Option String
  | allocated name => some name
  | _ => none

namespace Builtin

/-- The hint of the request that the macro makes on these arguments: a unique name makes one if they
can be read and there is nothing in them, neither an argument nor a block. -/
def hint? (kind : Builtin) (tokens : Tokens) : Option String :=
  match kind, Invocation.ofTokens tokens with
  | uniqueName, .ok invocation =>
    if invocation.arguments.isEmpty && invocation.trailing.isNone then some "unique" else none
  | _, _ => none

theorem hint?_eq_some_iff {kind : Builtin} {tokens : Tokens} {hint : String} :
    kind.hint? tokens = some hint ↔
      kind = uniqueName ∧ hint = "unique" ∧
        ∃ invocation, Invocation.ofTokens tokens = .ok invocation ∧
          UniqueName.excess? invocation = none := by
  have nothing (invocation : Invocation) : UniqueName.excess? invocation = none ↔
      (invocation.arguments.isEmpty && invocation.trailing.isNone) = true := by
    unfold UniqueName.excess?
    cases invocation.arguments <;> simp
  cases kind with
  | color => simp [hint?]
  | unwrap => simp [hint?]
  | uniqueName =>
      simp only [hint?, nothing]
      cases Invocation.ofTokens tokens with
      | error error => simp
      | ok invocation =>
          constructor
          · intro found
            obtain ⟨empty, text⟩ := Option.ite_none_right_eq_some.mp found
            exact ⟨trivial, (Option.some.inj text).symm, invocation, rfl, empty⟩
          · rintro ⟨-, rfl, _, same, empty⟩
            cases same
            exact if_pos empty

/-- An expansion that asks for a name gets it, and makes its placeholder of it. -/
theorem runIn_expandTokens_of_hint {kind : Builtin} {tokens : Tokens} {hint : String}
    (asks : kind.hint? tokens = some hint) (options : Options) (context : Context) :
    (kind.expandTokens options tokens).runIn context =
      (.ok (.statements [UniqueName.placeholder (Context.uniqueName hint context.names)]),
        context.apply ⟨[], 1, [.expanding kind, .uniqueName,
          .allocated (Context.uniqueName hint context.names)]⟩) := by
  obtain ⟨rfl, rfl, invocation, read, nothing⟩ := hint?_eq_some_iff.mp asks
  rw [runIn_expandTokens]
  simp only [outcomeOfTokens, read, outcome, UniqueName.outcome, nothing]
  rfl

/-- An expansion that asks for no name is given none. -/
theorem runIn_expandTokens_of_no_hint {kind : Builtin} {tokens : Tokens}
    (idle : kind.hint? tokens = none) (options : Options) (context : Context) :
    ∃ result effect,
      (kind.expandTokens options tokens).runIn context = (result, context.apply effect) ∧
      effect.names = 0 ∧ effect.events.filterMap Trace.Event.name? = [] := by
  refine ⟨_, _, runIn_expandTokens kind options tokens context, ?_⟩
  unfold outcomeOfTokens
  cases read : Invocation.ofTokens tokens with
  | error error => exact ⟨rfl, rfl⟩
  | ok invocation =>
      cases kind with
      | color =>
          simp only [outcome, Color.outcome, Color.entering]
          split <;> split <;> exact ⟨rfl, rfl⟩
      | unwrap =>
          simp only [outcome, Unwrap.outcome]
          split <;> exact ⟨rfl, rfl⟩
      | uniqueName =>
          cases excess : UniqueName.excess? invocation with
          | none =>
              have asks := hint?_eq_some_iff.mpr ⟨rfl, rfl, invocation, read, excess⟩
              rw [idle] at asks
              cases asks
          | some span =>
              simp [outcome, UniqueName.outcome, excess, Trace.Event.name?]

end Builtin

namespace Session

/-- The hint of the request that a step makes, if it makes one. -/
def Step.hint? : Step → Option String
  | uniqueName hint => some hint
  | expand kind tokens => kind.hint? tokens
  | render kind tokens => kind.hint? tokens
  | _ => none

/-- The hint of the request that an action makes, if it makes one. -/
def Action.hint? : Action → Option String
  | step _ own => own.hint?
  | report _ => none

/-- The name that an answer hands out. -/
def Answer.name? : Answer → Option String
  | named name => some name
  | _ => none

/-- The names that are handed out between two contexts: in the answer, or to an expansion, which
notes it whatever becomes of it. -/
def handed (before : Context) (answer : Answer) (after : Context) : List String :=
  answer.name?.toList ++ (after.trace.drop before.trace.length).filterMap Trace.Event.name?

/-- The name for a hint by its number, if it can be one: every character of the hint must be able to
stand inside a name. -/
def nameOf? (hint : String) (number : Nat) : Option String :=
  if hint.toList.all Identifier.isContinue then some ("__" ++ hint ++ "_" ++ toString number)
  else none

/-- How a step that asks for a name comes out, by the text made for it and what is pending. -/
inductive Answered (text : String) (pending : List Diagnostic) : Step → Answer → Prop where
  | named {hint : String} (possible : ∀ c ∈ hint.toList, Identifier.isContinue c = true) :
      Answered text pending (.uniqueName hint) (.named text)
  | refused {hint : String} (impossible : ∃ c ∈ hint.toList, Identifier.isContinue c = false) :
      Answered text pending (.uniqueName hint) (.refused (.notIdentifier text))
  | expanded {kind : Builtin} {tokens : Tokens} :
      Answered text pending (.expand kind tokens)
        (.expanded (.statements [UniqueName.placeholder text]))
  | rendered {kind : Builtin} {tokens output : Tokens}
      (printed : Builtin.Printed kind.role pending
        (.ok (.statements [UniqueName.placeholder text])) output) :
      Answered text pending (.render kind tokens) (.rendered output)

/-- The names that are handed out along the way. -/
def handedOut : Context → List (Answer × Context) → List String
  | _, [] => []
  | before, (answer, after) :: rest => handed before answer after ++ handedOut after rest

/-- Every step that asks for a name takes the next number, and no other action takes one. -/
inductive Numbered : Context → List Action → List (Answer × Context) → Prop where
  | nil {before : Context} : Numbered before [] []
  | idle {before after : Context} {action : Action} {answer : Answer} {rest : List Action}
      {results : List (Answer × Context)} (none : action.hint? = none)
      (kept : after.names = before.names) (more : Numbered after rest results) :
      Numbered before (action :: rest) ((answer, after) :: results)
  | asks {before after : Context} {options : Options} {step : Step} {answer : Answer}
      {rest : List Action} {results : List (Answer × Context)} {hint : String}
      (some : step.hint? = some hint) (counted : after.names = before.names + 1)
      (answered : Answered ("__" ++ hint ++ "_" ++ toString before.names) before.pending
        step answer)
      (more : Numbered after rest results) :
      Numbered before (.step options step :: rest) ((answer, after) :: results)

section Step

variable (options : Options) (context : Context)

/-- Allocation in a session hands out the text of the name or refuses it. -/
theorem perform_uniqueName (hint : String) :
    (perform options (.uniqueName hint) context).2 = (context.allocate hint).2 ∧
    Answered (Context.uniqueName hint context.names) context.pending (.uniqueName hint)
      (perform options (.uniqueName hint) context).1 := by
  have fault := Context.ofText?_uniqueName hint context.names
  simp only [perform, allocate, Context.allocate]
  by_cases possible : hint.toList.all Identifier.isContinue = true
  · rw [if_pos possible] at fault
    rw [fault]
    exact ⟨rfl, .named (List.all_eq_true.mp possible)⟩
  · rw [if_neg possible] at fault
    rw [fault]
    refine ⟨rfl, .refused ?_⟩
    simpa using possible

/-- An expansion in a session, by what it comes to. -/
theorem perform_expand (kind : Builtin) (tokens : Tokens) :
    (perform options (.expand kind tokens) context).2 =
      ((kind.expandTokens options tokens).runIn context).2 ∧
    (perform options (.expand kind tokens) context).1 =
      match ((kind.expandTokens options tokens).runIn context).1 with
      | .ok expansion => .expanded expansion
      | .error failure => .failed failure := by
  simp only [perform]
  obtain ⟨result, after⟩ := (kind.expandTokens options tokens).runIn context
  cases result <;> exact ⟨rfl, rfl⟩

/-- What is handed out, if it is known what was noted. -/
theorem handed_eq {before after : Context} {events : List Trace.Event}
    (noted : after.trace = before.trace ++ events) (answer : Answer) :
    handed before answer after = answer.name?.toList ++ events.filterMap Trace.Event.name? := by
  rw [handed, noted, List.drop_left]

/-- The macro's own hint always makes a name. -/
theorem nameOf?_of_hint {kind : Builtin} {tokens : Tokens} {hint : String}
    (asks : kind.hint? tokens = some hint) (number : Nat) :
    nameOf? hint number = some (Context.uniqueName hint number) := by
  obtain ⟨-, rfl, -⟩ := Builtin.hint?_eq_some_iff.mp asks
  rw [Context.uniqueName_eq]
  rfl

/-- A step that asks for a name takes the next number, and hands out the name if it can be one. -/
theorem perform_of_hint {step : Step} {hint : String} (asks : step.hint? = some hint) :
    (perform options step context).2.names = context.names + 1 ∧
    handed context (perform options step context).1 (perform options step context).2 =
      (nameOf? hint context.names).toList ∧
    Answered (Context.uniqueName hint context.names) context.pending step
      (perform options step context).1 := by
  cases step with
  | uniqueName own =>
      obtain rfl := Option.some.inj asks
      obtain ⟨after, answered⟩ := perform_uniqueName options context own
      have noted : (context.allocate own).2.trace = context.trace ++ [] :=
        (List.append_nil _).symm
      refine ⟨by rw [after]; rfl, ?_, answered⟩
      rw [after, handed_eq noted, nameOf?, ← Context.uniqueName_eq]
      generalize (perform options (.uniqueName own) context).1 = answer at answered
      cases answered with
      | named possible => rw [if_pos (List.all_eq_true.mpr possible)]; rfl
      | refused impossible => rw [if_neg (by simpa using impossible)]; rfl
  | expand kind tokens =>
      obtain ⟨after, answer⟩ := perform_expand options context kind tokens
      rw [Builtin.runIn_expandTokens_of_hint asks] at after answer
      rw [after, answer, handed_eq rfl, nameOf?_of_hint asks]
      exact ⟨rfl, rfl, .expanded⟩
  | render kind tokens =>
      have after := Builtin.context_render kind options tokens context
      have printed := Builtin.printed_render kind options tokens context
      rw [Builtin.runIn_expandTokens_of_hint asks] at after printed
      rw [Context.pending_apply, List.append_nil] at printed
      -- What is printed may hide the expansion, but its name stays in the trace.
      change (kind.render options tokens context).2.names = _ ∧
        handed context (.rendered _) (kind.render options tokens context).2 = _ ∧
        Answered _ _ _ (.rendered (kind.render options tokens context).1)
      rw [after, handed_eq rfl, nameOf?_of_hint asks]
      exact ⟨rfl, rfl, .rendered printed⟩
  | report fault => cases asks
  | take => cases asks
  | takeErrors => cases asks
  | location => cases asks

/-- A step that asks for no name takes no number and hands out nothing. -/
theorem perform_of_no_hint {step : Step} (idle : step.hint? = none) :
    (perform options step context).2.names = context.names ∧
    handed context (perform options step context).1 (perform options step context).2 = [] := by
  have unnoted (answer : Answer) : handed context answer context = answer.name?.toList := by
    rw [handed_eq (List.append_nil _).symm]
    exact List.append_nil _
  cases step with
  | uniqueName hint => cases idle
  | report fault => exact ⟨rfl, (handed_eq rfl _).trans rfl⟩
  | take => exact ⟨rfl, unnoted _⟩
  | takeErrors => exact ⟨rfl, unnoted _⟩
  | location => exact ⟨rfl, unnoted _⟩
  | expand kind tokens =>
      obtain ⟨result, effect, ran, names, events⟩ :=
        Builtin.runIn_expandTokens_of_no_hint idle options context
      obtain ⟨after, answer⟩ := perform_expand options context kind tokens
      have unnamed : (perform options (.expand kind tokens) context).1.name? = none := by
        rw [answer]
        split <;> rfl
      rw [ran] at after
      rw [after, handed_eq rfl, unnamed, events, Context.names_apply, names]
      exact ⟨rfl, rfl⟩
  | render kind tokens =>
      obtain ⟨result, effect, ran, names, events⟩ :=
        Builtin.runIn_expandTokens_of_no_hint idle options context
      have after := Builtin.context_render kind options tokens context
      rw [ran] at after
      change (kind.render options tokens context).2.names = _ ∧
        handed context (.rendered _) (kind.render options tokens context).2 = _
      rw [after, handed_eq rfl, events]
      exact ⟨congrArg (context.names + ·) names, rfl⟩

end Step

namespace Action

/-- An action takes a number exactly if it asks for a name, and hands out the name of that
number. -/
theorem names_perform (context : Context) (action : Action) :
    (action.perform context).2.names =
        context.names + (if action.hint?.isSome then 1 else 0) ∧
      handed context (action.perform context).1 (action.perform context).2 =
        (action.hint?.bind (nameOf? · context.names)).toList := by
  cases action with
  | report diagnostic => exact ⟨rfl, (handed_eq rfl _).trans rfl⟩
  | step options own =>
      cases asks : own.hint? with
      | none =>
          obtain ⟨names, given⟩ := perform_of_no_hint options context asks
          simp only [perform, hint?, asks, names, given]
          exact ⟨rfl, rfl⟩
      | some hint =>
          obtain ⟨names, given, -⟩ := perform_of_hint options context asks
          simp only [perform, hint?, asks, names, given]
          exact ⟨rfl, rfl⟩

/-- An action that asks for no name takes no number. -/
theorem names_of_no_hint {action : Action} (idle : action.hint? = none) (context : Context) :
    (action.perform context).2.names = context.names := by
  rw [(action.names_perform context).1, idle]
  rfl

end Action

/-- The hints of all requests, in order. -/
def hints (actions : List Action) : List String := actions.filterMap Action.hint?

theorem hints_cons (action : Action) (rest : List Action) :
    hints (action :: rest) = action.hint?.toList ++ hints rest := by
  rw [hints, List.filterMap_cons]
  cases action.hint? <;> rfl

/-- The names handed out along the way are those of the requests by their numbers. -/
theorem handedOut_run (actions : List Action) (context : Context) :
    handedOut context (run actions context) =
      ((hints actions).zipIdx context.names).filterMap fun attempt =>
        nameOf? attempt.1 attempt.2 := by
  induction actions generalizing context with
  | nil => rfl
  | cons action rest ih =>
      obtain ⟨counted, given⟩ := action.names_perform context
      rw [run, handedOut, ih, hints_cons, counted, given]
      cases action.hint? with
      | none => rfl
      | some hint =>
          rw [Option.toList_some, List.singleton_append, List.zipIdx_cons, List.filterMap_cons,
            Option.bind_some]
          cases nameOf? hint context.names <;> rfl

theorem numbered_run (actions : List Action) (context : Context) :
    Numbered context actions (run actions context) := by
  induction actions generalizing context with
  | nil => exact .nil
  | cons action rest ih =>
      cases asks : action.hint? with
      | none => exact .idle asks (Action.names_of_no_hint asks context) (ih _)
      | some hint =>
          cases action with
          | report diagnostic => cases asks
          | step options own =>
              obtain ⟨counted, -, answered⟩ := perform_of_hint options context asks
              rw [Context.uniqueName_eq] at answered
              exact .asks asks counted answered (ih _)

theorem numberOf_of_nameOf? {hint name : String} {number : Nat}
    (given : nameOf? hint number = some name) : Context.numberOf name = number := by
  obtain ⟨-, text⟩ := Option.ite_none_right_eq_some.mp given
  rw [← Option.some.inj text, ← Context.uniqueName_eq, Context.numberOf_uniqueName]

/-- Names with different numbers are different, and no number comes twice. -/
theorem nodup_names (hints : List String) (number : Nat) :
    ((hints.zipIdx number).filterMap fun attempt => nameOf? attempt.1 attempt.2).Nodup := by
  have numbers : (hints.zipIdx number).Pairwise fun first second => first.2 ≠ second.2 := by
    rw [← List.pairwise_map, List.zipIdx_map_snd]
    exact List.nodup_range'
  refine numbers.filterMap _ ?_
  intro first second different name given other givenOther same
  subst same
  exact different ((numberOf_of_nameOf? given).symm.trans (numberOf_of_nameOf? givenOther))

/-- All names handed out in one context are different: they are those of the requests, each with its
own number, and exactly the steps that ask for a name take a number. -/
theorem names_never_repeat (site : Span) (place : Option (String × Nat))
    (actions : List Action) :
    let fresh : Context := { site, place }
    (handedOut fresh (run actions fresh)).Nodup ∧
    handedOut fresh (run actions fresh) =
      (hints actions).zipIdx.filterMap (fun attempt => nameOf? attempt.1 attempt.2) ∧
    Numbered fresh actions (run actions fresh) := by
  intro fresh
  have names := handedOut_run actions fresh
  refine ⟨?_, names, numbered_run actions fresh⟩
  rw [names]
  exact nodup_names (hints actions) 0

end Session

end MacroExpansion
