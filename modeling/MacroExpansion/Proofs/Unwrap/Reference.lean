import MacroExpansion.Proofs.Outcome
import MacroExpansion.Proofs.Unwrap.Acceptance
import MacroExpansion.Proofs.Unwrap.Guard

/-!
# What an unwrapping expands to

An unwrapping is expanded if and only if it is well formed, and then into one guard for every value,
in the order they were written, followed by what its body emits. With the strategy that calls the
body as a closure this relies on the body reading back, since the call is put together from tokens
and read again; the strategy that emits the body statement by statement relies on nothing.

The two strategies differ in that last part only: they refuse the same invocations for the same
reason, and on the others they agree on the guards.
-/

namespace MacroExpansion

namespace Unwrap

/-- A statement and what it becomes among others: an expression without a semicolon gets one, and
everything else stays. -/
inductive Closes : Stmt → Stmt → Prop where
  | ended (expr : Expr) : Closes (.expr expr []) (.expr expr (Tokens.symbol ";"))
  | kept {statement : Stmt} (other : ∀ expr, statement ≠ .expr expr []) :
      Closes statement statement

theorem closes_close (statement : Stmt) : Closes statement (close statement) := by
  unfold close
  split
  · exact .ended _
  · rename_i other
    exact .kept other

theorem closes_map_close (statements : List Stmt) :
    List.Forall₂ Closes statements (statements.map close) := by
  induction statements with
  | nil => exact .nil
  | cons statement rest ih => exact .cons (closes_close statement) ih

/-- The statements that a body amounts to: those of the block that it is or that it has behind its
bars, or the one expression that it has there. -/
inductive Inlines : Body → List Stmt → Prop where
  | block {content : Block} {inlined : List Stmt}
      (each : List.Forall₂ Closes content.statements inlined) : Inlines (.block content) inlined
  | opened {whole inner : Expr} {attributes : Tokens} {statements inlined : List Stmt}
      {span : Span} (form : inner.bare = .block [] attributes statements span)
      (each : List.Forall₂ Closes statements inlined) : Inlines (.closure whole inner) inlined
  | single {whole inner : Expr}
      (form : ∀ attributes statements span, inner.bare ≠ .block [] attributes statements span) :
      Inlines (.closure whole inner) [.expr inner (Tokens.symbol ";")]

theorem inlines_statements (body : Body) : Inlines body body.statements := by
  unfold Body.statements
  split
  · exact .block (closes_map_close _)
  · exact .opened rfl (closes_map_close _)
  · exact .opened rfl (closes_map_close _)
  · rename_i whole inner notBlock notAttributed
    refine .single ?_
    intro attributes statements span form
    obtain same | ⟨outer, same⟩ := inner.eq_or_eq_attributed
    · exact notBlock _ _ _ (same.trans form)
    · exact notAttributed _ _ _ _ (form ▸ same)

/-- What a body emits with each strategy: the statements it amounts to, or the one call of it as a
closure. -/
inductive Emits (body : Body) : Strategy → List Stmt → Prop where
  | inline {inlined : List Stmt} (amounts : Inlines body inlined) : Emits body .inline inlined
  | closure : Emits body .closure [body.called]

/-- The call of a body, in parentheses and terminated. -/
theorem tokens_called (body : Body) :
    body.called.tokens =
      [.enclosed .parenthesis body.calledTokens, .enclosed .parenthesis []] ++
        Tokens.symbol ";" := rfl

/-- What a body emits, once its call is known to be readable. -/
def Body.emitted (body : Body) : Strategy → List Stmt
  | .inline => body.statements
  | .closure => [body.called]

theorem emits_emitted (body : Body) (strategy : Strategy) :
    Emits body strategy (body.emitted strategy) := by
  cases strategy with
  | inline => exact .inline (inlines_statements body)
  | closure => exact .closure

theorem Body.emit_eq_emitted {strategy : Strategy} {body : Body}
    (readable : strategy = .closure → body.source.ReadsBack) :
    body.emit strategy = .ok (body.emitted strategy) := by
  cases strategy with
  | inline => rfl
  | closure => rw [emit, call_eq_called (readable rfl)]; rfl

/-- The result of an expansion is that of finding guards and body, with the body emitted. -/
theorem expand_result {options : Options} {invocation : Invocation} {context : Context}
    (readable : options.strategy = .closure →
      ∀ body, HasBody invocation body → body.source.ReadsBack) :
    ((expand options invocation).runIn context).1 =
      (parts options.module context.site context.location invocation).map fun found =>
        found.1 ++ found.2.emitted options.strategy := by
  rw [runIn_expand, outcome]
  cases found : parts options.module context.site context.location invocation with
  | error failure => rfl
  | ok pair =>
      obtain ⟨guards, body⟩ := pair
      have has := (parts_eq_ok_iff.mp found).2.1
      have emitted : body.emit options.strategy = .ok (body.emitted options.strategy) :=
        Body.emit_eq_emitted fun closure => readable closure body has
      simp only [emitted]
      rfl

/-- Guards and body are found if and only if the invocation is well formed. -/
theorem exists_parts_iff (module : Path) (site : Span) (location : Location)
    (invocation : Invocation) :
    (∃ found, parts module site location invocation = .ok found) ↔ WellFormed invocation := by
  rw [wellFormed_iff]
  constructor
  · rintro ⟨⟨guards, body⟩, found⟩
    obtain ⟨single, has, names, all, -⟩ := parts_eq_ok_iff.mp found
    exact ⟨single, ⟨body, has⟩, names, all⟩
  · rintro ⟨single, ⟨body, has⟩, names, all⟩
    exact ⟨_, parts_eq_ok_iff.mpr ⟨single, has, names, all, rfl⟩⟩

theorem render_guards {module : Path} (named : module.OfNames) (location : Location)
    {values : List Expr} {names : List Ident} (all : List.Forall₂ Names values names) :
    (List.zipWith (guard module location) values names).map (fun statement =>
        statement.tokens.render) =
      names.map fun name => guardText module location name.text := by
  induction all with
  | nil => rfl
  | cons _ _ ih => rw [List.zipWith_cons_cons, List.map_cons, List.map_cons, render_guard named, ih]

/-- The well-formed invocations are expanded, and no others; the expansion has a guard for every
value, in order, and then the body. -/
theorem expand_reference (options : Options) (invocation : Invocation) (context : Context)
    (named : options.module.OfNames)
    (readable : options.strategy = .closure →
      ∀ body, HasBody invocation body → body.source.ReadsBack) :
    ((∃ output, ((expand options invocation).runIn context).1 = .ok output) ↔
      WellFormed invocation) ∧
    ∀ output, ((expand options invocation).runIn context).1 = .ok output →
      ∃ names guards body emitted,
        output = guards ++ emitted ∧
        List.Forall₂ Names (values invocation.arguments) names ∧
        guards = List.zipWith (guard options.module context.location)
          (values invocation.arguments) names ∧
        guards.map (fun statement => statement.tokens.render) =
          names.map (fun name => guardText options.module context.location name.text) ∧
        HasBody invocation body ∧ Emits body options.strategy emitted := by
  rw [expand_result readable]
  refine ⟨?_, ?_⟩
  · rw [← exists_parts_iff options.module context.site context.location]
    constructor
    · rintro ⟨output, done⟩
      obtain ⟨found, success, -⟩ := Except.map_eq_ok_iff.mp done
      exact ⟨found, success⟩
    · rintro ⟨found, success⟩
      exact ⟨_, Except.map_eq_ok_iff.mpr ⟨found, success, rfl⟩⟩
  · intro output done
    obtain ⟨⟨guards, body⟩, found, rfl⟩ := Except.map_eq_ok_iff.mp done
    obtain ⟨-, has, names, all, rfl⟩ := parts_eq_ok_iff.mp found
    exact ⟨names, _, body, _, rfl, all, rfl, render_guards named _ all, has,
      emits_emitted body _⟩

/-- If a body is found, there is no other. -/
theorem HasBody.eq_of_found {invocation : Invocation} {body other : Body}
    (has : HasBody invocation other) (site : Span)
    (found : Unwrap.body site invocation = .ok body) :
    other = body := by
  have single : SingleBody invocation := (body_eq_ok_iff.mp found).1
  exact Except.ok.inj ((body_eq_ok_iff.mpr ⟨single, has⟩).symm.trans found)

/-- A closure that only names something. -/
def naming (text : String) : Expr :=
  .closure [] (Tokens.symbol "|") [] (Tokens.symbol "|") [] (.path (.ofName (.made text)))

/-- The body in front of two values, in an invisible group: `body: || done, key: x, y`. -/
def bodyFirst : Invocation where
  items :=
    [(⟨some ⟨.made "body", Tokens.symbol ":"⟩, .hidden (naming "done") .callSite⟩,
        Tokens.symbol ","),
      (⟨some ⟨.made "key", Tokens.symbol ":"⟩, .path (.ofName (.made "x"))⟩, Tokens.symbol ","),
      (⟨none, .path (.ofName (.made "y"))⟩, [])]
  trailing := none

theorem readsBack_naming_done : (naming "done").ReadsBack := by
  intro depth deep group close
  obtain ⟨more, rfl⟩ := Nat.exists_eq_add_of_le' deep
  exact ⟨naming "done", rfl, rfl⟩

theorem expand_reference_bodyFirst :
    (Path.absolute ["freestanding"]).OfNames ∧
    (∀ body, HasBody bodyFirst body → body.source.ReadsBack) ∧
    WellFormed bodyFirst ∧
    ∃ output, ((expand ⟨.closure, .absolute ["freestanding"]⟩ bodyFirst).runIn {}).1 =
      .ok output := by
  have named : (Path.absolute ["freestanding"]).OfNames := ⟨rfl, by decide⟩
  have readable : ∀ body, HasBody bodyFirst body → body.source.ReadsBack := by
    intro body has
    rw [has.eq_of_found .callSite rfl]
    exact readsBack_naming_done
  have formed : WellFormed bodyFirst :=
    (exists_parts_iff (.absolute ["freestanding"]) .callSite (.deferred .callSite) _).mp ⟨_, rfl⟩
  exact ⟨named, readable, formed,
    (expand_reference ⟨.closure, .absolute ["freestanding"]⟩ bodyFirst {} named
      fun _ => readable).1.mpr formed⟩

/-- Both strategies refuse an invocation for the same reason, or both expand it with the same
guards, and then differ only in how they emit the body. -/
theorem strategies_agree (module : Path) (invocation : Invocation) (context : Context)
    (readable : ∀ body, HasBody invocation body → body.source.ReadsBack) :
    (¬ WellFormed invocation ∧ ∃ failure,
      ((expand ⟨.inline, module⟩ invocation).runIn context).1 = .error failure ∧
      ((expand ⟨.closure, module⟩ invocation).runIn context).1 = .error failure) ∨
    (WellFormed invocation ∧ ∃ names guards body inlined called,
      ((expand ⟨.inline, module⟩ invocation).runIn context).1 = .ok (guards ++ inlined) ∧
      ((expand ⟨.closure, module⟩ invocation).runIn context).1 = .ok (guards ++ [called]) ∧
      List.Forall₂ Names (values invocation.arguments) names ∧
      guards = List.zipWith (guard module context.location) (values invocation.arguments) names ∧
      HasBody invocation body ∧ Inlines body inlined ∧
      called = .expr (Grammar.enclosedCall body.calledTokens) (Tokens.symbol ";") ∧
      called.tokens =
        [.enclosed .parenthesis body.calledTokens, .enclosed .parenthesis []] ++
          Tokens.symbol ";") := by
  have accepted := exists_parts_iff module context.site context.location invocation
  rw [expand_result (fun _ => readable), expand_result (fun _ => readable)]
  cases found : parts module context.site context.location invocation with
  | error failure =>
      refine .inl ⟨?_, failure, rfl, rfl⟩
      intro formed
      obtain ⟨other, success⟩ := accepted.mpr formed
      exact nomatch found.symm.trans success
  | ok pair =>
      obtain ⟨guards, body⟩ := pair
      obtain ⟨-, has, names, all, same⟩ := parts_eq_ok_iff.mp found
      exact .inr ⟨accepted.mp ⟨_, found⟩, names, guards, body, _, _, rfl, rfl, all, same, has,
        inlines_statements body, rfl, tokens_called body⟩

/-- A value and a block of two statements behind it, the last without a semicolon:
`x => { first; last }`. -/
def blockBehind : Invocation where
  items := [(⟨none, .path (.ofName (.made "x"))⟩, [])]
  trailing := some ⟨Tokens.symbol "=>",
    [.expr (.path (.ofName (.made "first"))) (Tokens.symbol ";"),
      .expr (.path (.ofName (.made "last"))) []], .callSite⟩

theorem readsBack_blockBehind {body : Body} (has : HasBody blockBehind body) :
    body.source.ReadsBack := by
  rw [has.eq_of_found .callSite rfl]
  intro depth deep group close
  obtain ⟨more, rfl⟩ := Nat.exists_eq_add_of_le' deep
  exact ⟨_, rfl, rfl⟩

theorem strategies_agree_blockBehind :
    (∀ body, HasBody blockBehind body → body.source.ReadsBack) ∧
    WellFormed blockBehind ∧ ∃ guards inlined called,
      ((expand ⟨.inline, .absolute ["freestanding"]⟩ blockBehind).runIn {}).1 =
        .ok (guards ++ inlined) ∧
      ((expand ⟨.closure, .absolute ["freestanding"]⟩ blockBehind).runIn {}).1 =
        .ok (guards ++ [called]) := by
  have formed : WellFormed blockBehind :=
    (exists_parts_iff (.absolute ["freestanding"]) .callSite (.deferred .callSite) _).mp ⟨_, rfl⟩
  obtain ⟨malformed, -⟩ | ⟨-, _, guards, _, inlined, called, inline, closure, -⟩ :=
    strategies_agree (.absolute ["freestanding"]) blockBehind {} fun _ => readsBack_blockBehind
  · exact absurd formed malformed
  · exact ⟨fun _ => readsBack_blockBehind, formed, guards, inlined, called, inline, closure⟩

end Unwrap

end MacroExpansion
