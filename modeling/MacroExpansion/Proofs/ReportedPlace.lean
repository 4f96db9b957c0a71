import MacroExpansion.Proofs.RuntimePath

/-!
# Only reports tell the place

A context may know the file and the line of the invocation. They are looked at once, for the reports
in the guards of an unwrapping: each report has one argument for the file and one for the line, all
reports of an expansion have the same two, and nothing else depends on them. Without a known place
the two arguments are left to the compiler.

So for every call there is one function of the place that says what comes of it, and it is constant
unless there are guards. Failures, diagnostics, names and the trace are the same for all places.
-/

namespace MacroExpansion

/-! ### The code of a guard -/

namespace Unwrap

/-- The argument of a report for the file: a string, or a macro for the compiler. -/
def fileArgument : Option (String × Nat) → Tokens
  | some (file, _) => [.string file]
  | none => Tokens.symbol "::" ++ [.word "core"] ++ Tokens.symbol "::" ++ [.word "file"] ++
      Tokens.symbol "!" ++ [.enclosed .parenthesis []]

/-- The argument of a report for the line: a number, or a macro for the compiler. -/
def lineArgument : Option (String × Nat) → Tokens
  | some (_, line) => [.number line]
  | none => Tokens.symbol "::" ++ [.word "core"] ++ Tokens.symbol "::" ++ [.word "line"] ++
      Tokens.symbol "!" ++ [.enclosed .parenthesis []]

/-- The code of a guard, with the two arguments of its report that tell the place. -/
def guardCode (module : Path) (file line : Tokens) (value : Expr) (name : Ident) : Tokens :=
  [.ident "let" value.span] ++ Runtime.some.tokens ++ [.enclosed .parenthesis [name.token]] ++
    Tokens.symbol "=" ++ [name.token, .word "else",
      .enclosed .brace (
        Tokens.symbol "#" ++ [.enclosed .bracket
          [.word "cfg", .enclosed .parenthesis [.word "debug_assertions"]]] ++
        module.tokens ++ Tokens.symbol "::" ++ [.word "report_failed_unwrapping",
          .enclosed .parenthesis (
            [.string (missingMessage name)] ++ Tokens.symbol "," ++ file ++
            Tokens.symbol "," ++ line)] ++
        Tokens.symbol ";" ++ [.word "return"] ++ Tokens.symbol ";")] ++
    Tokens.symbol ";"

/-- The codes of the guards of an expansion, which all tell the same place. -/
def guardCodes (module : Path) (place : Option (String × Nat)) (values : List Expr)
    (names : List Ident) : List Tokens :=
  List.zipWith (guardCode module (fileArgument place) (lineArgument place)) values names

theorem fileTokens_location (context : Context) (place : Option (String × Nat)) :
    { context with place := place }.location.fileTokens = fileArgument place := by
  cases place <;> rfl

theorem lineTokens_location (context : Context) (place : Option (String × Nat)) :
    { context with place := place }.location.lineTokens = lineArgument place := by
  cases place <;> rfl

theorem tokens_guard (module : Path) (location : Location) (value : Expr) (name : Ident) :
    (guard module location value name).tokens =
      guardCode module location.fileTokens location.lineTokens value name := by
  simp [guardCode, guard, Stmt.tokens, Stmt.print, Binding.tokens, escape, Runtime.report,
    semicolon, Token.enclosed, PathSegment.step, PathSegment.tokens, Ident.made, Ident.token, Token.word]

/-- The place comes in only when names and body are known. -/
theorem outcome_eq_found (options : Options) (site : Span) (location : Location)
    (invocation : Invocation) :
    outcome options site location invocation =
      match found site invocation with
      | .error failure =>
        (.error failure, ⟨[], 0, [.unwrap invocation.size options.strategy]⟩)
      | .ok (names, body) =>
        ((body.emit options.strategy).map
            (List.zipWith (guard options.module location) (values invocation.arguments) names ++ ·),
          ⟨[], 0, [.unwrap invocation.size options.strategy,
            .guards (min (values invocation.arguments).length names.length)]⟩) := by
  rw [outcome, parts_eq]
  cases found site invocation with
  | error failure => rfl
  | ok pair =>
      dsimp only [Except.map]
      rw [List.length_zipWith]

end Unwrap

namespace Builtin

/-! ### What a call comes to at every place -/

/-- What a call comes to, as a function of the place: the same failure or the same expansion
everywhere, or guards that tell the place in front of the same statements. -/
inductive ResultOf (options : Options) (tokens : Tokens) :
    Builtin → (Option (String × Nat) → Except Failure Expansion) → Prop where
  | failed (kind : Builtin) (failure : Failure) :
      ResultOf options tokens kind fun _ => .error failure
  | other {kind : Builtin} (different : kind ≠ unwrap) (expansion : Expansion) :
      ResultOf options tokens kind fun _ => .ok expansion
  | guarded {invocation : Invocation} {names : List Ident}
      {guards : Option (String × Nat) → List Stmt} {emitted : List Stmt}
      (read : Invocation.ofTokens tokens = .ok invocation)
      (all : List.Forall₂ Unwrap.Names (Unwrap.values invocation.arguments) names)
      (codes : ∀ place, (guards place).map Stmt.tokens =
        Unwrap.guardCodes options.module place (Unwrap.values invocation.arguments) names) :
      ResultOf options tokens unwrap fun place => .ok (.statements (guards place ++ emitted))

/-- What is printed for a call, as a function of the place. -/
inductive OutputOf (options : Options) (tokens : Tokens) :
    Builtin → (Option (String × Nat) → Tokens) → Prop where
  | refused (kind : Builtin) {messages : List String} (wrong : messages ≠ []) :
      OutputOf options tokens kind fun _ => messages.flatMap kind.role.errorCode
  | other {kind : Builtin} (different : kind ≠ unwrap) (output : Tokens) :
      OutputOf options tokens kind fun _ => output
  | guarded {invocation : Invocation} {names : List Ident} {emitted : Tokens}
      (read : Invocation.ofTokens tokens = .ok invocation)
      (all : List.Forall₂ Unwrap.Names (Unwrap.values invocation.arguments) names) :
      OutputOf options tokens unwrap fun place =>
        (Unwrap.guardCodes options.module place (Unwrap.values invocation.arguments)
          names).flatten ++ emitted

/-- What a call adds to its context does not depend on the place. -/
theorem effect_outcomeOfTokens (kind : Builtin) (options : Options) (tokens : Tokens) (site : Span)
    (location other : Location) (number : Nat) :
    (kind.outcomeOfTokens options tokens site location number).2 =
      (kind.outcomeOfTokens options tokens site other number).2 := by
  unfold outcomeOfTokens
  cases Invocation.ofTokens tokens with
  | error error => rfl
  | ok invocation =>
      cases kind with
      | color => rfl
      | uniqueName => rfl
      | unwrap =>
          simp only [outcome, Unwrap.outcome_eq_found]
          cases Unwrap.found site invocation <;> rfl

section Place

variable (kind : Builtin) (options : Options) (tokens : Tokens) (context : Context)

/-- The expansion of a call in the context with another place. -/
def expandedAt (place : Option (String × Nat)) : Except Failure Expansion × Context :=
  (kind.expandTokens options tokens).runIn { context with place := place }

/-- What is printed for a call in the context with another place. -/
def renderedAt (place : Option (String × Nat)) : Tokens × Context :=
  kind.render options tokens { context with place := place }

theorem exists_effect_expandedAt : ∃ effect : Effect, ∀ place,
    (expandedAt kind options tokens context place).2 =
      { context with place := place }.apply effect := by
  refine ⟨(kind.outcomeOfTokens options tokens context.site context.location context.names).2,
    fun place => ?_⟩
  rw [expandedAt, runIn_expandTokens]
  exact congrArg (Context.apply _)
    (effect_outcomeOfTokens kind options tokens context.site _ _ context.names)

theorem codes_guards (module : Path) (place : Option (String × Nat)) (values : List Expr)
    (names : List Ident) :
    (List.zipWith (Unwrap.guard module { context with place := place }.location) values
        names).map Stmt.tokens =
      Unwrap.guardCodes module place values names := by
  rw [List.map_zipWith, Unwrap.guardCodes]
  congr 1
  funext value name
  rw [Unwrap.tokens_guard, Unwrap.fileTokens_location, Unwrap.lineTokens_location]

/-- A result that is the same everywhere, unless it is an unwrapping with guards. -/
theorem ResultOf.of_const {kind : Builtin} (different : kind ≠ unwrap)
    (result : Except Failure Expansion) : ResultOf options tokens kind fun _ => result := by
  cases result with
  | error failure => exact .failed kind failure
  | ok expansion => exact .other different expansion

theorem resultOf_expandedAt :
    ResultOf options tokens kind fun place => (expandedAt kind options tokens context place).1 := by
  simp only [expandedAt, runIn_expandTokens, outcomeOfTokens]
  cases read : Invocation.ofTokens tokens with
  | error error => exact .failed kind _
  | ok invocation =>
      cases kind with
      | color => exact .of_const options tokens (by decide) _
      | uniqueName => exact .of_const options tokens (by decide) _
      | unwrap =>
          simp only [outcome, Unwrap.outcome_eq_found]
          cases found : Unwrap.found context.site invocation with
          | error failure => exact .failed unwrap failure
          | ok pair =>
              obtain ⟨names, body⟩ := pair
              dsimp only
              cases body.emit options.strategy with
              | error failure => exact .failed unwrap failure
              | ok emitted =>
                  exact .guarded read (Unwrap.found_eq_ok found).1 fun place =>
                    codes_guards context options.module place _ names

/-- If the same is wrong everywhere, the same errors are printed everywhere. -/
theorem OutputOf.of_faults {diagnostics : List Diagnostic}
    {results : Option (String × Nat) → Except Failure Expansion}
    {outputs : Option (String × Nat) → Tokens} {messages : List String}
    (printed : ∀ place, Printed kind.role diagnostics (results place) (outputs place))
    (same : ∀ place, faults diagnostics (results place) = messages) (wrong : messages ≠ []) :
    OutputOf options tokens kind outputs := by
  have everywhere : outputs = fun _ => messages.flatMap kind.role.errorCode := by
    funext place
    rw [(printed place).eq_errors (by rw [same place]; exact wrong), same place]
  rw [everywhere]
  exact .refused kind wrong

/-- What is printed follows from what the call comes to and from what is pending then. -/
theorem OutputOf.of_resultOf {kind : Builtin} {options : Options} {tokens : Tokens}
    {diagnostics : List Diagnostic} {results : Option (String × Nat) → Except Failure Expansion}
    {outputs : Option (String × Nat) → Tokens} (resultOf : ResultOf options tokens kind results)
    (printed : ∀ place, Printed kind.role diagnostics (results place) (outputs place)) :
    OutputOf options tokens kind outputs := by
  cases resultOf with
  | failed failure => exact .of_faults kind options tokens printed (fun _ => rfl) (by simp [faults])
  | other different expansion =>
      by_cases quiet : diagnostics = []
      · have everywhere : outputs = fun _ => expansion.tokens :=
          funext fun place => (printed place).unique (.expansion expansion quiet)
        rw [everywhere]
        exact .other different expansion.tokens
      · exact .of_faults kind options tokens printed (fun _ => rfl) (by simpa [faults] using quiet)
  | @guarded invocation names guards emitted read all codes =>
      by_cases quiet : diagnostics = []
      · have everywhere : outputs = fun place =>
            (Unwrap.guardCodes options.module place (Unwrap.values invocation.arguments)
              names).flatten ++ emitted.flatMap Stmt.tokens := by
          funext place
          rw [(printed place).unique (.expansion _ quiet), Expansion.tokens, List.flatMap_append,
            ← codes place, ← List.flatMap_def]
        rw [everywhere]
        exact .guarded read all
      · have same (place : Option (String × Nat)) :
            faults diagnostics (.ok (.statements (guards place ++ emitted))) =
              diagnostics.map Diagnostic.message := by simp [faults]
        exact .of_faults unwrap options tokens printed same (by simpa using quiet)

theorem outputOf_renderedAt :
    OutputOf options tokens kind fun place => (renderedAt kind options tokens context place).1 := by
  obtain ⟨effect, added⟩ := exists_effect_expandedAt kind options tokens context
  have printed (place : Option (String × Nat)) :
      Printed kind.role (context.pending ++ effect.reports)
        (expandedAt kind options tokens context place).1
        (renderedAt kind options tokens context place).1 := by
    have printed := printed_render kind options tokens { context with place := place }
    rw [← expandedAt, added place] at printed
    exact printed
  exact .of_resultOf (resultOf_expandedAt kind options tokens context) printed

/-- Without a value there is nothing that tells the place. -/
theorem OutputOf.const {kind : Builtin} {options : Options} {tokens : Tokens}
    {outputs : Option (String × Nat) → Tokens} (outputOf : OutputOf options tokens kind outputs)
    (unguarded : kind = unwrap → ∀ invocation, Invocation.ofTokens tokens = .ok invocation →
      Unwrap.values invocation.arguments = []) :
    ∃ output, ∀ place, outputs place = output := by
  cases outputOf with
  | refused => exact ⟨_, fun _ => rfl⟩
  | other => exact ⟨_, fun _ => rfl⟩
  | guarded read all =>
      rw [unguarded rfl _ read]
      exact ⟨_, fun _ => rfl⟩

/-- A call comes to the same at every place and adds the same to its context, except that each
guard of an unwrapping reports the place: the file as a string and the line as a number, or both
left to the compiler. What is printed is the same too but for these two arguments, and entirely the
same if there is no value. -/
theorem place_only_in_reports :
    (ResultOf options tokens kind fun place =>
      (expandedAt kind options tokens context place).1) ∧
    (OutputOf options tokens kind fun place =>
      (renderedAt kind options tokens context place).1) ∧
    (∃ effect : Effect, ∀ place,
      (expandedAt kind options tokens context place).2 =
        { context with place := place }.apply effect ∧
      (renderedAt kind options tokens context place).2 =
        { { context with place := place }.apply effect with pending := [] }) ∧
    ((kind = unwrap → ∀ invocation, Invocation.ofTokens tokens = .ok invocation →
        Unwrap.values invocation.arguments = []) →
      ∃ output, ∀ place, (renderedAt kind options tokens context place).1 = output) := by
  have outputOf := outputOf_renderedAt kind options tokens context
  refine ⟨resultOf_expandedAt kind options tokens context, outputOf, ?_, outputOf.const⟩
  obtain ⟨effect, added⟩ := exists_effect_expandedAt kind options tokens context
  refine ⟨effect, fun place => ⟨added place, ?_⟩⟩
  rw [renderedAt, context_render, ← expandedAt, added place]

end Place

end Builtin

end MacroExpansion
