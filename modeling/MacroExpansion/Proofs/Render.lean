import MacroExpansion.Proofs.Outcome

/-!
# Renderings are all or nothing

Three things can keep a rendering from printing an expansion: a diagnostic that was pending before,
a diagnostic that the expansion reports itself, and a failure to read or to expand. An expansion
neither looks at the pending diagnostics nor takes one away, so those of the first kind come before
those of the second, and a failure comes last. Whatever happened, nothing is pending afterwards.
-/

namespace MacroExpansion

/-- The code that makes compilation fail with a message. It ends with a semicolon where statements
are expected. -/
def Role.errorCode (role : Role) (message : String) : Tokens :=
  Tokens.symbol "::" ++ [.word "core"] ++ Tokens.symbol "::" ++ [.word "compile_error"] ++
    Tokens.symbol "!" ++ [.enclosed .brace [.string message]] ++
    if role = .declaration then Tokens.symbol ";" else []

namespace Builtin

theorem errorTokens_eq_errorCode (kind : Builtin) (message : String) :
    kind.errorTokens message = kind.role.errorCode message := by
  cases kind <;> rfl

/-- The diagnostics that the expansion of tokens reports itself. -/
def reports (kind : Builtin) (options : Options) (tokens : Tokens) (context : Context) :
    List Diagnostic :=
  ((kind.expandTokens options tokens).runIn { context with pending := [] }).2.pending

theorem reports_eq (kind : Builtin) (options : Options) (tokens : Tokens) (context : Context) :
    kind.reports options tokens context =
      (kind.outcomeOfTokens options tokens context.site context.location
        context.names).2.reports := by
  have location : { context with pending := [] }.location = context.location := rfl
  rw [reports, runIn_expandTokens, Context.pending_apply, location, List.nil_append]

/-- An expansion leaves the pending diagnostics where they are and reports behind them. -/
theorem pending_expandTokens (kind : Builtin) (options : Options) (tokens : Tokens)
    (context : Context) :
    ((kind.expandTokens options tokens).runIn context).2.pending =
      context.pending ++ kind.reports options tokens context := by
  rw [runIn_expandTokens, reports_eq, Context.pending_apply]

/-- What stands in the place of a call: the expansion if nothing is wrong, and otherwise a compile
error for everything that is, the diagnostics first. -/
inductive Printed (role : Role) (diagnostics : List Diagnostic) :
    Except Failure Expansion → Tokens → Prop where
  | expansion (expansion : Expansion) (none : diagnostics = []) :
      Printed role diagnostics (.ok expansion) expansion.tokens
  | suppressed (expansion : Expansion) (some : diagnostics ≠ []) :
      Printed role diagnostics (.ok expansion)
        (diagnostics.flatMap fun diagnostic => role.errorCode diagnostic.message)
  | failure (failure : Failure) :
      Printed role diagnostics (.error failure)
        ((diagnostics.flatMap fun diagnostic => role.errorCode diagnostic.message) ++
          role.errorCode failure.message)

/-- What is printed is fixed by the result and the diagnostics. -/
theorem Printed.unique {role : Role} {diagnostics : List Diagnostic}
    {result : Except Failure Expansion} {output other : Tokens}
    (first : Printed role diagnostics result output)
    (second : Printed role diagnostics result other) : output = other := by
  cases first with
  | expansion expansion none =>
      cases second with
      | expansion => rfl
      | suppressed _ some => exact absurd none some
  | suppressed expansion some =>
      cases second with
      | expansion _ none => exact absurd none some
      | suppressed => rfl
  | failure failure =>
      cases second with
      | failure => rfl

/-- A rendering takes the result of the expansion and all diagnostics that are pending after it. -/
theorem printed_render (kind : Builtin) (options : Options) (tokens : Tokens) (context : Context) :
    Printed kind.role ((kind.expandTokens options tokens).runIn context).2.pending
      ((kind.expandTokens options tokens).runIn context).1
      (kind.render options tokens context).1 := by
  unfold render
  obtain ⟨result, after⟩ := (kind.expandTokens options tokens).runIn context
  have codes : kind.errorTokens = kind.role.errorCode := funext kind.errorTokens_eq_errorCode
  cases result with
  | error failure =>
      have failed : Printed kind.role after.pending (.error failure) _ := .failure failure
      simpa [Context.take, codes, List.flatMap_map] using failed
  | ok expansion =>
      cases pending : after.pending with
      | nil =>
          have printed : Printed kind.role [] (.ok expansion) _ := .expansion expansion rfl
          simpa [Context.take, pending] using printed
      | cons first rest =>
          have suppressed : Printed kind.role (first :: rest) (.ok expansion) _ :=
            .suppressed expansion (List.cons_ne_nil first rest)
          simpa [Context.take, codes, pending, List.flatMap_map] using suppressed

theorem context_render (kind : Builtin) (options : Options) (tokens : Tokens)
    (context : Context) :
    (kind.render options tokens context).2 =
      { ((kind.expandTokens options tokens).runIn context).2 with pending := [] } := by
  unfold render
  obtain ⟨result, after⟩ := (kind.expandTokens options tokens).runIn context
  cases result with
  | error failure => rfl
  | ok expansion =>
      simp only [Context.take]
      split <;> rfl

/-- A rendering prints the expansion only if no diagnostic was pending and none was reported, and
otherwise all of them; afterwards none is pending. -/
theorem render_all_or_nothing (kind : Builtin) (options : Options) (tokens : Tokens)
    (context : Context) :
    ((kind.expandTokens options tokens).runIn context).2.pending =
      context.pending ++ kind.reports options tokens context ∧
    Printed kind.role (context.pending ++ kind.reports options tokens context)
      ((kind.expandTokens options tokens).runIn context).1
      (kind.render options tokens context).1 ∧
    (kind.render options tokens context).2 =
      { ((kind.expandTokens options tokens).runIn context).2 with pending := [] } := by
  have pending := pending_expandTokens kind options tokens context
  have printed := printed_render kind options tokens context
  rw [pending] at printed
  exact ⟨pending, printed, context_render kind options tokens context⟩

end Builtin

end MacroExpansion
