import MacroExpansion.Proofs.Reading.Held
import MacroExpansion.Proofs.Unwrap.Reference
import MacroExpansion.Token.Lexer

/-!
# How an inlined body ends

A body that is emitted statement by statement is to have no value of its own, so its last statement
may not stand open: it may be neither an expression nor a macro call without a semicolon. No
expression ever does. A macro call does if it makes a statement by itself and was written without a
semicolon, and whoever reads a block takes only calls in braces for that.
-/

namespace MacroExpansion

/-- The statement would be the value of a block that it ends. -/
inductive Stmt.Open : Stmt → Prop where
  | expr (value : Expr) : Open (.expr value [])
  | macroCall (attributes : Tokens) (call : MacroCall) : Open (.macroCall attributes call [])

namespace Expr

theorem held_bare (expr : Expr) : expr.bare.held = expr.held := by
  cases expr <;> rfl

theorem held_revealed (expr : Expr) : expr.revealed.held = expr.held := by
  fun_induction revealed expr with
  | case1 inner span ih => exact ih
  | case2 attributes inner span ih => exact ih
  | case3 => rfl

end Expr

namespace Unwrap

/-- Code is a block without a label, whatever attributes it has, or something else. -/
theorem block_or_other (code : Expr) :
    (∃ attributes statements span, code.bare = .block [] attributes statements span) ∨
      ∀ attributes statements span, code.bare ≠ .block [] attributes statements span := by
  simpa only [not_exists] using Classical.em
    (∃ attributes statements span, code.bare = .block [] attributes statements span)

/-- The statements behind the bars of a closure: those of a block, or the one expression that stands
there. -/
def behindBars (inner : Expr) : List Stmt :=
  match inner.bare with
  | .block [] _ statements _ => statements
  | _ => [.expr inner []]

theorem behindBars_of_block {inner : Expr} {attributes : Tokens} {statements : List Stmt}
    {span : Span} (form : inner.bare = .block [] attributes statements span) :
    behindBars inner = statements := by
  rw [behindBars, form]

theorem behindBars_of_other {inner : Expr}
    (other : ∀ attributes statements span, inner.bare ≠ .block [] attributes statements span) :
    behindBars inner = [.expr inner []] := by
  unfold behindBars
  split
  · rename_i form
    exact absurd form (other _ _ _)
  · rfl

/-- The statements of a body as they were written. -/
def Body.written : Body → List Stmt
  | block content => content.statements
  | closure _ inner => behindBars inner

theorem Body.statements_eq_map_close (body : Body) : body.statements = body.written.map close := by
  unfold statements
  split
  · rfl
  · rfl
  · rfl
  · rename_i whole inner notBlock notAttributed
    rw [written, behindBars_of_other]
    · rfl
    · intro attributes statements span form
      obtain same | ⟨outer, same⟩ := inner.eq_or_eq_attributed
      · exact notBlock _ _ _ (same.trans form)
      · exact notAttributed _ _ _ _ (form ▸ same)

/-- What was written open stays so only if it is a macro call. -/
theorem open_close_iff {statement : Stmt} :
    (close statement).Open ↔ ∃ attributes call, statement = .macroCall attributes call [] := by
  constructor
  · intro isOpen
    have closes := closes_close statement
    generalize close statement = closed at isOpen closes
    cases isOpen with
    | expr value =>
        cases closes with
        | kept other => exact absurd rfl (other value)
    | macroCall attributes call =>
        cases closes with
        | kept => exact ⟨attributes, call, rfl⟩
  · rintro ⟨attributes, call, rfl⟩
    exact .macroCall attributes call

theorem close_ne_expr (statement : Stmt) (value : Expr) : close statement ≠ .expr value [] := by
  intro same
  obtain ⟨attributes, call, rfl⟩ := open_close_iff.mp (same ▸ Stmt.Open.expr value)
  cases same

theorem mem_guards {module : Path} {location : Location} {values : List Expr} {names : List Ident}
    {statement : Stmt}
    (among : statement ∈ List.zipWith (guard module location) values names) :
    ∃ binding, statement = .binding binding := by
  rw [List.mem_iff_getElem?] at among
  obtain ⟨position, found⟩ := among
  rw [List.getElem?_zipWith] at found
  split at found
  · cases found
    exact ⟨_, rfl⟩
  · cases found

/-- What is emitted ends with the last statement of the body if it has one, and else with a
guard. -/
theorem getLast?_guards_append {guards : List Stmt} {body : Body} {last : Stmt}
    (bindings : ∀ statement ∈ guards, ∃ binding, statement = .binding binding)
    (ends : (guards ++ body.statements).getLast? = some last) :
    (∃ binding, last = .binding binding) ∧ body.written = [] ∨
      ∃ tail, body.written.getLast? = some tail ∧ last = close tail := by
  rw [Body.statements_eq_map_close, List.getLast?_append, List.getLast?_map] at ends
  cases written : body.written.getLast? with
  | none =>
      rw [written, Option.map_none, Option.none_or] at ends
      exact .inl ⟨bindings last (List.mem_of_getLast? ends), List.getLast?_eq_none_iff.mp written⟩
  | some tail =>
      rw [written, Option.map_some, Option.some_or] at ends
      exact .inr ⟨tail, rfl, (Option.some.inj ends).symm⟩

/-- In the body of an invocation that was read, macro calls without a semicolon are in braces. -/
theorem HasBody.callBraced {tokens : Tokens} {invocation : Invocation} {body : Body}
    (read : Invocation.ofTokens tokens = .ok invocation) (has : HasBody invocation body) :
    ∀ statement ∈ body.written, statement.CallBraced := by
  obtain ⟨arguments, behind⟩ := Invocation.holds_of_read (P := Stmt.CallBraced) read
  obtain ⟨argument, member, -, denoted⟩ | ⟨trailing, given, rfl⟩ := has
  · have held := (arguments argument member).all
    rw [← Expr.held_revealed, ← Expr.held_bare] at held
    unfold Denotes at denoted
    generalize argument.expr.revealed = code at held denoted
    cases denoted with
    | @closure _ _ _ _ inner form =>
        -- What a closure holds is what stands behind its bars.
        rw [form, Expr.held, ← Expr.held_bare] at held
        rw [Body.written]
        obtain ⟨attributes, statements, span, block⟩ | other := block_or_other inner
        · rw [block] at held
          rw [behindBars_of_block block]
          exact held
        · rw [behindBars_of_other other]
          intro statement among
          cases List.mem_singleton.mp among
          nofun
    | block form =>
        rw [form] at held
        exact held
  · exact behind trailing given

/-- An inlined body has no value, except for that of a macro call that was written in braces and
without a semicolon at its end: no expression is emitted without a semicolon, and the last statement
is open if and only if it is such a call, which stays the way it was written. -/
theorem inlined_tail_terminated (module : Path) (invocation : Invocation) (context : Context)
    (output : List Stmt)
    (accepted : ((expand ⟨.inline, module⟩ invocation).runIn context).1 = .ok output) :
    (∀ value, Stmt.expr value [] ∉ output) ∧
    ∃ body, HasBody invocation body ∧
      (∀ value, body.written.getLast? = some (.expr value []) →
        output.getLast? = some (.expr value (Tokens.symbol ";"))) ∧
      (∀ last, output.getLast? = some last →
        (last.Open ↔ body.written.getLast? = some last ∧
          ∃ attributes call, last = .macroCall attributes call [])) ∧
      ∀ tokens, Invocation.ofTokens tokens = .ok invocation →
        ∀ attributes call, body.written.getLast? = some (.macroCall attributes call []) →
          call.isBraced = true := by
  rw [expand_result (by rintro ⟨⟩)] at accepted
  obtain ⟨⟨guards, body⟩, found, rfl⟩ := Except.map_eq_ok_iff.mp accepted
  obtain ⟨-, has, names, all, rfl⟩ := parts_eq_ok_iff.mp found
  refine ⟨?_, body, has, ?_, ?_, ?_⟩
  · intro value among
    obtain guarded | inlined := List.mem_append.mp among
    · obtain ⟨binding, other⟩ := mem_guards guarded
      cases other
    · change _ ∈ body.statements at inlined
      rw [Body.statements_eq_map_close] at inlined
      obtain ⟨statement, -, same⟩ := List.mem_map.mp inlined
      exact close_ne_expr statement value same
  · intro value tail
    change (_ ++ body.statements).getLast? = _
    rw [Body.statements_eq_map_close, List.getLast?_append, List.getLast?_map, tail]
    rfl
  · intro last ends
    obtain ⟨⟨binding, rfl⟩, empty⟩ | ⟨tail, written, rfl⟩ :=
      getLast?_guards_append (fun _ => mem_guards) ends
    · exact ⟨nofun, fun tail => nomatch tail.2⟩
    · rw [open_close_iff]
      constructor
      · rintro ⟨attributes, call, rfl⟩
        exact ⟨written, attributes, call, rfl⟩
      · rintro ⟨same, attributes, call, closed⟩
        have unchanged : tail = close tail := Option.some.inj (written.symm.trans same)
        exact ⟨attributes, call, unchanged.trans closed⟩
  · intro tokens read attributes call tail
    exact has.callBraced read _ (List.mem_of_getLast? tail) attributes call rfl

/-- In `x => { first; last }` the second statement gets its semicolon. -/
theorem inlined_tail_terminated_blockBehind :
    ∃ output, ((expand ⟨.inline, .absolute ["freestanding"]⟩ blockBehind).runIn {}).1 = .ok output ∧
      output.getLast? = some (.expr (.path (.ofName (.made "last"))) (Tokens.symbol ";")) := by
  have accepted : ((expand ⟨.inline, .absolute ["freestanding"]⟩ blockBehind).runIn {}).1 = .ok _ :=
    rfl
  obtain ⟨-, body, has, ended, -⟩ := inlined_tail_terminated _ _ _ _ accepted
  refine ⟨_, accepted, ended _ ?_⟩
  rw [has.eq_of_found .callSite rfl]
  rfl

/-- The tokens of `=> { m! { x } }`. -/
def bracedCall : Tokens :=
  [.punct '=' .joint ⟨⟨1, 0⟩, ⟨1, 1⟩⟩, .punct '>' .alone ⟨⟨1, 1⟩, ⟨1, 2⟩⟩,
    .group .brace
      [.ident "m" ⟨⟨1, 5⟩, ⟨1, 6⟩⟩, .punct '!' .alone ⟨⟨1, 6⟩, ⟨1, 7⟩⟩,
        .group .brace [.ident "x" ⟨⟨1, 10⟩, ⟨1, 11⟩⟩] ⟨⟨1, 8⟩, ⟨1, 13⟩⟩] ⟨⟨1, 3⟩, ⟨1, 15⟩⟩]

set_option maxRecDepth 4000 in
/-- A body that ends with a macro call in braces is emitted with an open end. -/
theorem bracedCall_stays_open :
    Tokens.ofText? "=> \x7b m! \x7b x \x7d \x7d" = some bracedCall ∧
    ∃ invocation last, Invocation.ofTokens bracedCall = .ok invocation ∧
      ((expand ⟨.inline, .absolute ["freestanding"]⟩ invocation).runIn {}).1 = .ok [last] ∧
      last.Open ∧ last.tokens.render = "m ! \x7b x \x7d" :=
  ⟨rfl, _, _, rfl, rfl, .macroCall _ _, rfl⟩

end Unwrap

end MacroExpansion
