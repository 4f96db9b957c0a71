import MacroExpansion.Proofs.Color.Reference
import MacroExpansion.Proofs.Conservation
import MacroExpansion.Proofs.Reading.Shown
import MacroExpansion.Proofs.Unwrap.Reference

/-!
# No failure is silent

Something always stands in the place of a call: the expansion, or exactly one compile error that
says why there is none. The one exception is an unwrapping with nothing to unwrap and nothing to do,
whose body is emitted statement by statement. That there is no other rests on the printer: every
statement of a body that was read prints a token, so it cannot vanish when it is emitted.
-/

namespace MacroExpansion

open Tokens

/-! ### Compile errors -/

/-- The macro call that makes compilation fail with a message. -/
def errorCall (message : String) : MacroCall :=
  ⟨Runtime.compileError, Tokens.symbol "!", .enclosed .brace [.string message]⟩

namespace Role

instance (role : Role) (message : String) : Present (role.errorCode message) := by
  unfold errorCode; infer_instance

/-- A compile error in the place of an expression is one expression. -/
theorem expr_ofTokens_errorCode (message : String) :
    Expr.ofTokens (Role.expression.errorCode message) = .ok (.macroCall (errorCall message)) := rfl

/-- A compile error in the place of statements is one statement with its semicolon. -/
theorem stmt_listOfTokens_errorCode (message : String) :
    Stmt.listOfTokens (Role.declaration.errorCode message) =
      .ok [.macroCall [] (errorCall message) (Tokens.symbol ";")] := rfl

end Role

/-! ### Bodies -/

theorem Stmt.AllShown.flatMap_eq_nil_iff {statements : List Stmt} (all : AllShown statements) :
    statements.flatMap Stmt.tokens = [] ↔ statements = [] := by
  rw [List.flatMap_eq_nil_iff]
  constructor
  · intro none
    refine List.eq_nil_iff_forall_not_mem.mpr fun statement among => ?_
    exact (all statement among).ne_nil (none statement among)
  · rintro rfl
    exact List.forall_mem_nil _

namespace Expr

theorem Shown.revealed {expr : Expr} (shown : expr.Shown) : expr.revealed.Shown := by
  fun_induction Expr.revealed expr with
  | case1 inner span ih =>
      cases shown with
      | hidden _ _ shown => exact ih shown
  | case2 attributes inner span ih =>
      cases shown with
      | attributed _ _ shown =>
          cases shown with
          | hidden _ _ shown => exact ih shown
  | case3 => exact shown

theorem Shown.bare {expr : Expr} (shown : expr.Shown) : expr.bare.Shown := by
  unfold Expr.bare
  split
  · cases shown with
    | attributed _ _ shown => exact shown
  · exact shown

end Expr

namespace Unwrap

/-- The body has no statements: it is a block without any, or a closure around such a block. -/
inductive Body.Vacant : Body → Prop
  | block (span : Span) : Vacant (.block ⟨[], span⟩)
  | closure {whole inner : Expr} {attributes : Tokens} {span : Span}
      (form : inner.bare = .block [] attributes [] span) : Vacant (.closure whole inner)

theorem Body.statements_eq_nil_iff {body : Body} : body.statements = [] ↔ body.Vacant := by
  constructor
  · intro none
    unfold Body.statements at none
    split at none
    · rename_i content
      obtain ⟨statements, span⟩ := content
      cases List.map_eq_nil_iff.mp none
      exact .block span
    · cases List.map_eq_nil_iff.mp none
      exact .closure rfl
    · cases List.map_eq_nil_iff.mp none
      exact .closure rfl
    · cases none
  · intro vacant
    cases vacant with
    | block span => rfl
    | closure form =>
        rename_i inner attributes span
        obtain whole | ⟨outer, whole⟩ := inner.eq_or_eq_attributed
        · rw [whole, form]; rfl
        · rw [whole, form]; rfl

theorem shown_terminate (expr : Expr) : (terminate expr).Shown := by
  have end_ : Present semicolon := ⟨List.cons_ne_nil _ _⟩
  unfold terminate Stmt.Shown Stmt.tokens Stmt.print
  infer_instance

theorem shown_close {statement : Stmt} (shown : statement.Shown) : (close statement).Shown := by
  unfold close
  split
  · exact shown_terminate _
  · exact shown

theorem allShown_map_close {statements : List Stmt} (all : Stmt.AllShown statements) :
    Stmt.AllShown (statements.map close) := by
  intro statement among
  obtain ⟨own, member, rfl⟩ := List.mem_map.mp among
  exact shown_close (all own member)

/-- The statements of a body all print a token if the code does that is written for it. -/
theorem Body.Written.allShown {code : Expr} {body : Body} (written : body.Written code)
    (shown : code.Shown) : Stmt.AllShown body.statements := by
  have bare := shown.bare
  cases written with
  | block form =>
      rw [form] at bare
      cases bare with
      | block _ _ _ _ all => exact allShown_map_close all
  | closure form =>
      rw [form] at bare
      cases bare with
      | closure _ _ _ _ _ inner shown =>
          have own := shown.bare
          unfold Body.statements
          split
          · rename_i same
            cases same
          · rename_i same
            cases same
            cases own with
            | block _ _ _ _ all => exact allShown_map_close all
          · rename_i same
            cases same
            cases own with
            | block _ _ _ _ all => exact allShown_map_close all
          · exact List.forall_mem_singleton.mpr (shown_terminate _)

/-- The statements of a body that was read all print a token. -/
theorem HasBody.allShown {invocation : Invocation} {body : Body} (has : HasBody invocation body)
    (shown : invocation.Shown) : Stmt.AllShown body.statements := by
  obtain ⟨argument, member, -, denoted⟩ | ⟨trailing, behind, rfl⟩ := has
  · exact denoted.allShown (shown.arguments argument member).revealed
  · exact allShown_map_close (shown.trailing trailing behind)

/-- There are no guards only where there is no value. -/
theorem flatMap_guards_eq_nil_iff {module : Path} {location : Location} {values : List Expr}
    {names : List Ident} (all : List.Forall₂ Names values names) :
    (List.zipWith (guard module location) values names).flatMap Stmt.tokens = [] ↔
      values = [] := by
  cases all with
  | nil => simp
  | @cons value name _ _ named rest =>
      have shown : (guard module location value name).Shown := Stmt.shown_binding
      simp [shown.ne_nil]

/-- A body emits nothing only if it has no statements and they are emitted one by one. -/
theorem HasBody.flatMap_emitted_eq_nil_iff {invocation : Invocation} {body : Body}
    (has : HasBody invocation body) (shown : invocation.Shown) {strategy : Strategy}
    {emitted : List Stmt} (emits : body.emit strategy = .ok emitted) :
    emitted.flatMap Stmt.tokens = [] ↔ strategy = .inline ∧ body.Vacant := by
  cases strategy with
  | inline =>
      cases emits
      rw [(has.allShown shown).flatMap_eq_nil_iff, Body.statements_eq_nil_iff]
      simp
  | closure =>
      obtain ⟨statement, called, rfl⟩ := Except.map_eq_ok_iff.mp emits
      have read : Stmt.ofTokens body.callTokens = .ok statement := by
        unfold Body.call at called
        cases found : Stmt.ofTokens body.callTokens with
        | error error => simp [found, Except.mapError] at called
        | ok other => simpa [found, Except.mapError] using called
      simp [(Stmt.shown_of_read read).ne_nil]

/-- The unwrapping leaves nothing to print: there is no value to unwrap, and the body has no
statements. -/
structure Vanishes (invocation : Invocation) : Prop extends WellFormed invocation where
  noValues : Unwrap.values invocation.arguments = []
  noStatements : ∃ body, HasBody invocation body ∧ body.Vacant

/-- What is emitted prints nothing exactly if the unwrapping vanishes and its body is emitted
statement by statement. -/
theorem flatMap_outcome_eq_nil_iff {options : Options} {site : Span} {location : Location}
    {invocation : Invocation} (shown : invocation.Shown) {statements : List Stmt}
    (emitted : (outcome options site location invocation).1 = .ok statements) :
    statements.flatMap Stmt.tokens = [] ↔
      options.strategy = .inline ∧ Vanishes invocation := by
  unfold outcome at emitted
  cases found : parts options.module site location invocation with
  | error failure => simp [found] at emitted
  | ok pair =>
      obtain ⟨guards, body⟩ := pair
      rw [found] at emitted
      obtain ⟨rest, emits, rfl⟩ := Except.map_eq_ok_iff.mp emitted
      obtain ⟨single, has, names, all, rfl⟩ := parts_eq_ok_iff.mp found
      rw [List.flatMap_append, List.append_eq_nil_iff, flatMap_guards_eq_nil_iff all,
        has.flatMap_emitted_eq_nil_iff shown emits]
      constructor
      · rintro ⟨noValues, inline, vacant⟩
        have formed := wellFormed_iff.mpr ⟨single, ⟨body, has⟩, names, all⟩
        exact ⟨inline, formed, noValues, body, has, vacant⟩
      · rintro ⟨inline, vanishes⟩
        obtain ⟨other, hasOther, vacant⟩ := vanishes.noStatements
        have same : other = body :=
          hasOther.eq_of_found site (body_eq_ok_iff.mpr ⟨single, has⟩)
        exact ⟨vanishes.noValues, inline, same ▸ vacant⟩

theorem reports_outcome (options : Options) (site : Span) (location : Location)
    (invocation : Invocation) : (outcome options site location invocation).2.reports = [] := by
  unfold outcome
  split <;> rfl

/-- An unwrapping that vanishes is not refused. -/
theorem Vanishes.outcome_eq_ok {invocation : Invocation} (vanishes : Vanishes invocation)
    {options : Options} (inline : options.strategy = .inline) (site : Span) (location : Location) :
    ∃ statements, (outcome options site location invocation).1 = .ok statements := by
  obtain ⟨⟨guards, body⟩, found⟩ :=
    (exists_parts_iff options.module site location invocation).mpr vanishes.toWellFormed
  refine ⟨guards ++ body.statements, ?_⟩
  unfold outcome
  rw [found, inline]
  rfl

end Unwrap

/-! ### What stands in the place of a call -/

namespace Color

/-- Why a color is refused. -/
inductive Refused (module : Path) (site : Span) (tokens : Tokens) : String → Prop
  | unreadable {error : SyntaxError} (read : Invocation.ofTokens tokens = .error error) :
      Refused module site tokens error.message
  | reported {invocation : Invocation} {diagnostic : Diagnostic}
      (read : Invocation.ofTokens tokens = .ok invocation)
      (means : Means module site (invocation.arguments.map (·.expr)) none [diagnostic]) :
      Refused module site tokens diagnostic.message

/-- A color is reported once or becomes one call. -/
theorem Means.cases {module : Path} {site : Span} {exprs : List Expr} {result : Option Expr}
    {reports : List Diagnostic} (means : Means module site exprs result reports) :
    (∃ diagnostic, result = none ∧ reports = [diagnostic]) ∨
      ∃ space red green blue place,
        result = some (callOf module space red green blue place) ∧ reports = [] := by
  cases means with
  | noArgument => exact .inl ⟨_, rfl, rfl⟩
  | notInteger => exact .inl ⟨_, rfl, rfl⟩
  | malformed => exact .inl ⟨_, rfl, rfl⟩
  | color => exact .inr ⟨_, _, _, _, _, rfl, rfl⟩

end Color

namespace Builtin

section Idle

variable {context : Context} (idle : context.pending = []) (options : Options) (tokens : Tokens)

include idle

/-- A failure is printed as one compile error. -/
theorem render_of_failure (kind : Builtin) {failure : Failure}
    (failed : ((kind.expandTokens options tokens).runIn context).1 = .error failure) :
    (kind.render options tokens context).1 = kind.role.errorCode failure.message := by
  have printed := kind.printed_render options tokens context
  have kept : ((kind.expandTokens options tokens).runIn context).2.pending = [] := by
    unfold expandTokens at failed ⊢
    split at failed
    · exact idle
    · rename_i invocation read
      have accounted := kind.accounted_expand options invocation context
      rw [failed] at accounted
      cases accounted with
      | failed _ kept => exact kept.trans idle
  rw [failed, kept] at printed
  exact printed.unique (.failure failure)

theorem render_of_unreadable (kind : Builtin) {error : SyntaxError}
    (read : Invocation.ofTokens tokens = .error error) :
    (kind.render options tokens context).1 = kind.role.errorCode error.message := by
  have failed : ((kind.expandTokens options tokens).runIn context).1 =
      .error (.unreadable error) := by
    rw [expandTokens, read, Expand.runIn_throw]
  rw [render_of_failure idle options tokens kind failed, Failure.message]

theorem printed_of_read (kind : Builtin) {invocation : Invocation}
    (read : Invocation.ofTokens tokens = .ok invocation) :
    Printed kind.role
      (kind.outcome options invocation context.site context.location context.names).2.reports
      (kind.outcome options invocation context.site context.location context.names).1
      (kind.render options tokens context).1 := by
  have printed := kind.printed_render options tokens context
  rwa [runIn_expandTokens_of_read read, Context.pending_apply, idle, List.nil_append] at printed

/-- In the place of a color stands the call of the constructor or one compile error. -/
theorem render_color :
    (∃ invocation space red green blue place,
      Invocation.ofTokens tokens = .ok invocation ∧
      Color.Means options.module context.site (invocation.arguments.map (·.expr))
        (some (Color.callOf options.module space red green blue place)) [] ∧
      (color.render options tokens context).1 =
        (Color.callOf options.module space red green blue place).tokens) ∨
    ∃ message, Color.Refused options.module context.site tokens message ∧
      (color.render options tokens context).1 = Role.expression.errorCode message := by
  cases read : Invocation.ofTokens tokens with
  | error error =>
      exact .inr ⟨_, .unreadable read, render_of_unreadable idle options tokens color read⟩
  | ok invocation =>
      have printed := printed_of_read idle options tokens color read
      have means := Color.means_outcome options.module context.site invocation
      simp only [outcome] at printed
      obtain ⟨diagnostic, result, reports⟩ | ⟨space, red, green, blue, place, result, reports⟩ :=
        means.cases
      · rw [result, reports] at printed means
        rw [Option.elim_none] at printed
        have suppressed : Printed Role.expression [diagnostic] (.ok .empty) _ :=
          .suppressed .empty (List.cons_ne_nil diagnostic [])
        refine .inr ⟨_, .reported read means, (printed.unique suppressed).trans ?_⟩
        exact List.flatMap_singleton _ _
      · rw [result, reports] at printed means
        rw [Option.elim_some] at printed
        exact .inl ⟨invocation, space, red, green, blue, place, rfl, means,
          printed.unique (.expansion _ rfl)⟩

theorem render_color_ne_nil : (color.render options tokens context).1 ≠ [] := by
  obtain ⟨_, space, red, green, blue, place, -, -, printed⟩ | ⟨message, -, printed⟩ :=
    render_color idle options tokens
  · have shown : (Color.callOf options.module space red green blue place).Shown := by
      unfold Color.callOf
      infer_instance
    rw [printed]
    exact (shown.present_print .alone).ne_nil
  · rw [printed]
    exact Present.ne_nil

theorem render_uniqueName_ne_nil : (uniqueName.render options tokens context).1 ≠ [] := by
  cases read : Invocation.ofTokens tokens with
  | error error =>
      rw [render_of_unreadable idle options tokens uniqueName read]
      exact Present.ne_nil
  | ok invocation =>
      have printed := printed_of_read idle options tokens uniqueName read
      simp only [outcome, UniqueName.outcome] at printed
      cases excess : UniqueName.excess? invocation with
      | some span =>
          rw [excess] at printed
          rw [printed.unique (.failure _)]
          exact Present.ne_nil
      | none =>
          rw [excess] at printed
          rw [printed.unique (.expansion _ rfl)]
          have all (name : String) : Stmt.AllShown [UniqueName.placeholder name] :=
            List.forall_mem_singleton.mpr Stmt.shown_binding
          exact mt (all _).flatMap_eq_nil_iff.mp (List.cons_ne_nil _ _)

/-- Nothing stands in the place of an unwrapping only if it vanishes. -/
theorem render_unwrap_eq_nil_iff :
    (unwrap.render options tokens context).1 = [] ↔
      options.strategy = .inline ∧
        ∃ invocation, Invocation.ofTokens tokens = .ok invocation ∧
          Unwrap.Vanishes invocation := by
  cases read : Invocation.ofTokens tokens with
  | error error =>
      simp [render_of_unreadable idle options tokens unwrap read, Present.ne_nil]
  | ok invocation =>
      have printed := printed_of_read idle options tokens unwrap read
      have shown := Invocation.shown_of_read read
      simp only [outcome, Unwrap.reports_outcome] at printed
      simp only [Except.ok.injEq, exists_eq_left']
      cases result : (Unwrap.outcome options context.site context.location invocation).1 with
      | error failure =>
          rw [result] at printed
          rw [printed.unique (.failure failure)]
          refine iff_of_false Present.ne_nil ?_
          rintro ⟨inline, vanishes⟩
          obtain ⟨statements, found⟩ :=
            vanishes.outcome_eq_ok inline context.site context.location
          rw [result] at found
          cases found
      | ok statements =>
          rw [result] at printed
          rw [printed.unique (.expansion _ rfl)]
          exact Unwrap.flatMap_outcome_eq_nil_iff shown result

end Idle

/-- Something stands in the place of every call, with one exception: an unwrapping without values
whose body has no statements, emitted one by one. In the place of a color stands one expression, the
call of the constructor or a compile error, and a failure of another macro is printed as one compile
error with its semicolon. -/
theorem no_silent_failure (kind : Builtin) (options : Options) (tokens : Tokens) (site : Span)
    (place : Option (String × Nat)) :
    let fresh : Context := { site, place }
    let output := (kind.render options tokens fresh).1
    (output = [] ↔
      kind = .unwrap ∧ options.strategy = .inline ∧
        ∃ invocation, Invocation.ofTokens tokens = .ok invocation ∧
          Unwrap.Vanishes invocation) ∧
    (kind = .color →
      (∃ invocation space red green blue origin,
        Invocation.ofTokens tokens = .ok invocation ∧
        Color.Means options.module site (invocation.arguments.map (·.expr))
          (some (Color.callOf options.module space red green blue origin)) [] ∧
        output = (Color.callOf options.module space red green blue origin).tokens) ∨
      ∃ message, Color.Refused options.module site tokens message ∧
        output = Role.expression.errorCode message ∧
        Expr.ofTokens output = .ok (.macroCall (errorCall message))) ∧
    (kind ≠ .color → ∀ failure,
      ((kind.expandTokens options tokens).runIn fresh).1 = .error failure →
        output = Role.declaration.errorCode failure.message ∧
        Stmt.listOfTokens output =
          .ok [.macroCall [] (errorCall failure.message) (Tokens.symbol ";")]) := by
  intro fresh output
  have idle : fresh.pending = [] := rfl
  refine ⟨?_, ?_, ?_⟩
  · cases kind with
    | color => simpa using render_color_ne_nil idle options tokens
    | unwrap => simpa using render_unwrap_eq_nil_iff idle options tokens
    | uniqueName => simpa using render_uniqueName_ne_nil idle options tokens
  · rintro rfl
    refine (render_color idle options tokens).imp_right ?_
    rintro ⟨message, refused, printed⟩
    exact ⟨message, refused, printed,
      (congrArg Expr.ofTokens printed).trans (Role.expr_ofTokens_errorCode message)⟩
  · intro other failure failed
    have declares : kind.role = .declaration := by
      cases kind with
      | color => exact absurd rfl other
      | unwrap => rfl
      | uniqueName => rfl
    have printed := render_of_failure idle options tokens kind failed
    rw [declares] at printed
    exact ⟨printed, (congrArg Stmt.listOfTokens printed).trans
      (Role.stmt_listOfTokens_errorCode failure.message)⟩

/-- The exception: nothing is left of `unwrap!(=> {})`. -/
example : (unwrap.render {} (Tokens.symbol "=>" ++ [.enclosed .brace []]) {}).1 = [] := rfl

end Builtin

end MacroExpansion
