import MacroExpansion.Proofs.Unwrap.Tail

/-!
# The attributes of a body

A body argument carries attributes in several places: in front of the invisible groups that it is
in, in front of the closure or the block, in front of what a closure has behind its bars, and at the
start of a block. An expansion keeps those of the code that it emits as an expression, which is the
closure where it is called and what stands behind its bars where that is no block. All others are
left out without a word: `stripped` is the body without them, and it has the same expansion.
-/

namespace MacroExpansion

mutual

/-- The tokens stand in a row inside the token. -/
def Token.Encloses (part : Tokens) : Token → Prop
  | .group _ inner _ => Tokens.Occurs part inner
  | _ => False

/-- The tokens stand in a row among these, at any depth. -/
def Tokens.Occurs (part : Tokens) : Tokens → Prop
  | [] => part = []
  | token :: rest => part <+: token :: rest ∨ token.Encloses part ∨ Tokens.Occurs part rest

end

namespace Tokens

variable {part : Tokens}

theorem occurs_atFront {tokens : Tokens} (begins : part <+: tokens) : Occurs part tokens := by
  cases tokens with
  | nil => exact List.prefix_nil.mp begins
  | cons token rest => exact .inl begins

theorem Occurs.behind (front : Tokens) {rest : Tokens} (occurs : Occurs part rest) :
    Occurs part (front ++ rest) := by
  induction front with
  | nil => exact occurs
  | cons token front ih => exact .inr (.inr ih)

theorem Occurs.before {front : Tokens} (occurs : Occurs part front) (rest : Tokens) :
    Occurs part (front ++ rest) := by
  induction front with
  | nil =>
      cases occurs
      exact occurs_atFront (List.nil_prefix)
  | cons token front ih =>
      obtain begins | inside | later := occurs
      · exact .inl (begins.trans (List.prefix_append _ rest))
      · exact .inr (.inl inside)
      · exact .inr (.inr (ih later))

theorem Occurs.inGroup {inner : Tokens} (occurs : Occurs part inner) (delimiter : Delimiter)
    (span : Span) : Occurs part [.group delimiter inner span] := .inr (.inl occurs)

theorem Occurs.wrap {inner : Tokens} (occurs : Occurs part inner) (enclosed : Bool) :
    Occurs part (Setting.wrap enclosed inner) := by
  cases enclosed with
  | false => exact occurs
  | true => exact occurs.inGroup _ _

end Tokens

open Tokens

namespace Expr

/-- The attributes that code carries, from the outside in. -/
def carried : Expr → List Tokens
  | attributed attributes inner => attributes :: inner.carried
  | hidden inner _ => inner.carried
  | closure _ _ _ _ _ body => body.carried
  | block _ [] _ _ => []
  | block _ attributes _ _ => [attributes]
  | _ => []

/-- Code prints all attributes that it carries. -/
theorem occurs_print (expr : Expr) (setting : Setting) :
    ∀ attributes ∈ expr.carried, Occurs attributes (expr.print setting) := by
  -- The induction follows the code inwards, where it is printed in other settings.
  fun_induction carried expr generalizing setting with
  | case1 own inner ih =>
      rw [print, List.forall_mem_cons]
      refine ⟨occurs_atFront (List.prefix_append _ _), ?_⟩
      intro attributes among
      exact ((ih _ attributes among).wrap _).behind own
  | case2 inner span ih =>
      intro attributes among
      rw [print]
      exact (ih _ attributes among).inGroup _ _
  | case3 head opening parameters closing output body ih =>
      intro attributes among
      rw [print]
      exact (ih _ attributes among).behind _
  | case4 => exact List.forall_mem_nil _
  | case5 label own statements span _ =>
      intro attributes among
      cases List.mem_singleton.mp among
      rw [print]
      exact ((occurs_atFront (List.prefix_append _ _)).inGroup _ _).behind label
  | case6 => exact List.forall_mem_nil _

theorem carried_revealed_suffix (expr : Expr) : expr.revealed.carried <:+ expr.carried := by
  fun_induction revealed expr with
  | case1 inner span ih => exact ih
  | case2 attributes inner span ih => exact ih.trans (List.suffix_cons attributes _)
  | case3 expr => exact List.suffix_refl _

theorem carried_bare_suffix (expr : Expr) : expr.bare.carried <:+ expr.carried := by
  cases expr with
  | attributed attributes inner => exact List.suffix_cons attributes _
  | _ => exact List.suffix_refl _

end Expr

namespace Unwrap

/-- A block without a label loses its attributes, and other code keeps them. -/
def withoutBlockAttributes (code : Expr) : Expr :=
  match code.bare with
  | .block [] _ statements span => .block [] [] statements span
  | _ => code

theorem withoutBlockAttributes_of_block {code : Expr} {attributes : Tokens}
    {statements : List Stmt} {span : Span}
    (form : code.bare = .block [] attributes statements span) :
    withoutBlockAttributes code = .block [] [] statements span := by
  rw [withoutBlockAttributes, form]

theorem withoutBlockAttributes_of_other {code : Expr}
    (other : ∀ attributes statements span, code.bare ≠ .block [] attributes statements span) :
    withoutBlockAttributes code = code := by
  unfold withoutBlockAttributes
  split
  · rename_i form
    exact absurd form (other _ _ _)
  · rfl

/-- The body without the groups around it and without the attributes that are not emitted: those of
a block, and those of a closure that is not called. -/
def stripped (strategy : Strategy) (expr : Expr) : Expr :=
  match strategy, expr.revealed.bare with
  | .inline, .closure head opening parameters closing output inner =>
    .closure head opening parameters closing output (withoutBlockAttributes inner)
  | _, _ => withoutBlockAttributes expr.revealed

theorem carried_withoutBlockAttributes_suffix (code : Expr) :
    (withoutBlockAttributes code).carried <:+ code.carried := by
  obtain ⟨_, _, _, block⟩ | other := block_or_other code
  · rw [withoutBlockAttributes_of_block block]
    exact List.nil_suffix
  · exact (withoutBlockAttributes_of_other other).symm ▸ List.suffix_refl _

/-- What is left are the innermost attributes. -/
theorem carried_stripped_suffix (strategy : Strategy) (expr : Expr) :
    (stripped strategy expr).carried <:+ expr.carried := by
  unfold stripped
  split
  · rename_i form
    have outer := (expr.revealed.carried_bare_suffix).trans expr.carried_revealed_suffix
    rw [form] at outer
    exact (carried_withoutBlockAttributes_suffix _).trans outer
  · exact (carried_withoutBlockAttributes_suffix _).trans expr.carried_revealed_suffix

theorem behindBars_withoutBlockAttributes (inner : Expr) :
    behindBars (withoutBlockAttributes inner) = behindBars inner := by
  obtain ⟨_, _, _, block⟩ | other := block_or_other inner
  · rw [withoutBlockAttributes_of_block block, behindBars_of_block block]
    rfl
  · rw [withoutBlockAttributes_of_other other]

section Forms

variable {expr inner : Expr} {head opening parameters closing output : Tokens}

theorem stripped_block {attributes : Tokens} {statements : List Stmt} {span : Span}
    (form : expr.revealed.bare = .block [] attributes statements span) (strategy : Strategy) :
    stripped strategy expr = .block [] [] statements span := by
  cases strategy <;> simp only [stripped, form, withoutBlockAttributes_of_block form]

theorem stripped_inlined
    (form : expr.revealed.bare = .closure head opening parameters closing output inner) :
    stripped .inline expr =
      .closure head opening parameters closing output (withoutBlockAttributes inner) := by
  simp only [stripped, form]

theorem stripped_called
    (form : expr.revealed.bare = .closure head opening parameters closing output inner) :
    stripped .closure expr = expr.revealed := by
  simp only [stripped, withoutBlockAttributes, form]

end Forms

/-- Code that is a body is in no invisible group. -/
theorem Body.Written.denotes {code : Expr} {body : Body} (written : Written code body) :
    Denotes code body := by
  have revealed : code.revealed = code := by
    obtain same | ⟨attributes, same⟩ := code.eq_or_eq_attributed
    · cases written with
      | closure form => rw [same, form]; rfl
      | block form => rw [same, form]; rfl
    · cases written with
      | closure form => rw [same, form]; rfl
      | block form => rw [same, form]; rfl
  rw [Denotes, revealed]
  exact written

/-- The stripped code is a body that emits the same. -/
theorem exists_denotes_stripped {expr : Expr} {body : Body} (denoted : Denotes expr body)
    (strategy : Strategy) :
    ∃ same, Denotes (stripped strategy expr) same ∧ same.emit strategy = body.emit strategy := by
  unfold Denotes at denoted
  cases denoted with
  | @closure head opening closing output inner form =>
      cases strategy with
      | inline =>
          rw [stripped_inlined form]
          refine ⟨_, (Body.Written.closure rfl).denotes, ?_⟩
          rw [Body.emit, Body.emit, Body.statements_eq_map_close, Body.statements_eq_map_close,
            Body.written, Body.written, behindBars_withoutBlockAttributes]
      | closure =>
          rw [stripped_called form]
          exact ⟨_, (Body.Written.closure form).denotes, rfl⟩
  | block form =>
      rw [stripped_block form]
      exact ⟨_, (Body.Written.block rfl).denotes, rfl⟩

/-! ### What is kept -/

theorem occurs_statement {statement : Stmt} {part : Tokens} {list : List Stmt}
    (among : statement ∈ list) (occurs : Occurs part statement.tokens) :
    Occurs part (list.flatMap Stmt.tokens) := by
  obtain ⟨before, after, rfl⟩ := List.append_of_mem among
  rw [List.flatMap_append, List.flatMap_cons]
  exact (occurs.before _).behind _

theorem occurs_terminate {expr : Expr} :
    ∀ attributes ∈ expr.carried, Occurs attributes (terminate expr).tokens := by
  intro attributes among
  rw [terminate, Stmt.tokens, Stmt.print]
  exact ((expr.occurs_print _ attributes among).wrap _).before _

/-- What a body emits carries the attributes that are left. -/
theorem occurs_emitted {expr : Expr} {body : Body} (denoted : Denotes expr body)
    (strategy : Strategy) :
    ∀ attributes ∈ (stripped strategy expr).carried,
      Occurs attributes ((body.emitted strategy).flatMap Stmt.tokens) := by
  intro attributes among
  unfold Denotes at denoted
  cases denoted with
  | @closure head opening closing output inner form =>
      cases strategy with
      | inline =>
          rw [stripped_inlined form, Expr.carried] at among
          rw [Body.emitted, Body.statements_eq_map_close, Body.written]
          obtain ⟨_, _, _, block⟩ | other := block_or_other inner
          · rw [withoutBlockAttributes_of_block block] at among
            exact absurd among List.not_mem_nil
          · rw [withoutBlockAttributes_of_other other] at among
            rw [behindBars_of_other other]
            exact occurs_statement (List.mem_singleton_self _) (occurs_terminate _ among)
      | closure =>
          rw [stripped_called form] at among
          refine occurs_statement (List.mem_singleton_self _) ?_
          rw [tokens_called]
          exact .inr (.inl (expr.revealed.occurs_print _ attributes among))
  | block form =>
      rw [stripped_block form] at among
      exact absurd among List.not_mem_nil

/-! ### What is left out -/

/-- The argument with other code if it is the body. -/
def replaceBody (code : Expr) (argument : Argument) : Argument :=
  if isBody argument then { argument with expr := code } else argument

theorem isBody_replaceBody (code : Expr) (argument : Argument) :
    isBody (replaceBody code argument) = isBody argument := by
  unfold replaceBody
  split <;> rfl

/-- The invocation with other code as its labelled body. -/
def withBody (code : Expr) (invocation : Invocation) : Invocation :=
  { invocation with
    items := invocation.items.map fun item => (replaceBody code item.1, item.2) }

section WithBody

variable (code : Expr) (invocation : Invocation)

theorem arguments_withBody :
    (withBody code invocation).arguments = invocation.arguments.map (replaceBody code) := by
  simp [withBody, Invocation.arguments, Function.comp_def]

theorem size_withBody : (withBody code invocation).size = invocation.size := by
  simp [withBody, Invocation.size]

theorem labelled_withBody :
    (withBody code invocation).arguments.filter isBody =
      (invocation.arguments.filter isBody).map (replaceBody code) := by
  rw [arguments_withBody, List.filter_map]
  congr 2
  exact funext (isBody_replaceBody code)

theorem values_withBody :
    values (withBody code invocation).arguments = values invocation.arguments := by
  have same : (fun argument => !isBody argument) ∘ replaceBody code =
      fun argument => !isBody argument :=
    funext fun argument => congrArg not (isBody_replaceBody code argument)
  rw [values, arguments_withBody, List.filter_map, same, List.map_map, values]
  refine List.map_congr_left fun argument among => ?_
  have value : isBody argument = false := by simpa using (List.mem_filter.mp among).2
  rw [Function.comp_apply, replaceBody, if_neg (by simp [value])]

variable {code invocation}

theorem SingleBody.withBody (single : SingleBody invocation) :
    SingleBody (withBody code invocation) where
  atMostOne := by
    rw [labelled_withBody, List.length_map]
    exact single.atMostOne
  eitherWay := by
    refine Iff.trans ?_ single.eitherWay
    simp only [arguments_withBody, List.mem_map, exists_exists_and_eq_and, isBody_replaceBody]

/-- A body in place of another one that emits the same makes no difference. -/
theorem runIn_expand_withBody {options : Options} {context : Context} {argument : Argument}
    {guards : List Stmt} {body same : Body} (member : argument ∈ invocation.arguments)
    (labelled : isBody argument)
    (found : parts options.module context.site context.location invocation = .ok (guards, body))
    (denoted : Denotes code same)
    (emits : same.emit options.strategy = body.emit options.strategy) :
    (expand options (withBody code invocation)).runIn context =
      (expand options invocation).runIn context := by
  -- The values are untouched, so the guards are found as before and only the body is a new one.
  obtain ⟨single, -, values⟩ := parts_eq_ok_iff.mp found
  have replaced : replaceBody code argument ∈ (withBody code invocation).arguments := by
    rw [arguments_withBody]
    exact List.mem_map_of_mem member
  have has : HasBody (withBody code invocation) same := by
    refine .inl ⟨_, replaced, (isBody_replaceBody code argument).trans labelled, ?_⟩
    rw [replaceBody, if_pos labelled]
    exact denoted
  have again : parts options.module context.site context.location (withBody code invocation) =
      .ok (guards, same) := by
    refine parts_eq_ok_iff.mpr ⟨single.withBody, has, ?_⟩
    rw [values_withBody]
    exact values
  rw [runIn_expand, runIn_expand, outcome, outcome, found, again, size_withBody]
  dsimp only
  rw [emits]

end WithBody

/-- Of the attributes that the body argument of an accepted invocation carries, those of the code
that is emitted as an expression are emitted with it, and the others leave no trace: without them,
and without the invisible groups around the body, the expansion is the same. Values, in contrast,
may carry none. -/
theorem body_attributes_kept_or_traceless (options : Options) (invocation : Invocation)
    (context : Context) (argument : Argument) (output : List Stmt)
    (member : argument ∈ invocation.arguments) (labelled : isBody argument)
    (readable : options.strategy = .closure →
      ∀ body, HasBody invocation body → body.source.ReadsBack)
    (accepted : ((expand options invocation).runIn context).1 = .ok output) :
    (stripped options.strategy argument.expr).carried <:+ argument.expr.carried ∧
    (∀ attributes ∈ (stripped options.strategy argument.expr).carried,
      Occurs attributes (output.flatMap Stmt.tokens)) ∧
    (expand options (withBody (stripped options.strategy argument.expr) invocation)).runIn context =
      (expand options invocation).runIn context ∧
    ∀ value ∈ values invocation.arguments, value.revealed.carried = [] := by
  rw [expand_result readable] at accepted
  obtain ⟨⟨guards, body⟩, found, rfl⟩ := Except.map_eq_ok_iff.mp accepted
  obtain ⟨single, has, names, all, -⟩ := parts_eq_ok_iff.mp found
  have denoted : Denotes argument.expr body := by
    obtain ⟨other, among, isBody, denoted⟩ | ⟨trailing, behind, -⟩ := has
    · exact single.unique ⟨among, isBody⟩ ⟨member, labelled⟩ ▸ denoted
    · exact nomatch behind.symm.trans (single.eitherWay.mp ⟨argument, member, labelled⟩)
  obtain ⟨same, denotedSame, emits⟩ := exists_denotes_stripped denoted options.strategy
  refine ⟨carried_stripped_suffix _ _, ?_, ?_, ?_⟩
  · intro attributes among
    rw [List.flatMap_append]
    exact (occurs_emitted denoted options.strategy attributes among).behind _
  · exact runIn_expand_withBody member labelled found denotedSame emits
  · intro value among
    obtain ⟨name, named⟩ := exists_forall₂_names_iff.mp ⟨names, all⟩ value among
    rw [named]
    rfl

/-- A made-up attribute: `#[cold]`. -/
def coldMark : Tokens := Tokens.symbol "#" ++ [.enclosed .bracket [.word "cold"]]

/-- A closure with an attribute as the body: `body: #[cold] || done`. -/
def coldBody : Invocation where
  items :=
    [(⟨some ⟨.made "body", Tokens.symbol ":"⟩, .attributed coldMark (naming "done")⟩, [])]
  trailing := none

theorem readsBack_coldBody {body : Body} (has : HasBody coldBody body) :
    body.source.ReadsBack := by
  rw [has.eq_of_found .callSite rfl]
  intro depth deep group close
  obtain ⟨more, rfl⟩ := Nat.exists_eq_add_of_le' deep
  exact ⟨.attributed coldMark (naming "done"), rfl, rfl⟩

/-- The closure is called with its attribute. -/
theorem body_attributes_kept_or_traceless_coldBody :
    (∀ body, HasBody coldBody body → body.source.ReadsBack) ∧
    ∃ output, ((expand ⟨.closure, .absolute ["freestanding"]⟩ coldBody).runIn {}).1 = .ok output ∧
      Occurs coldMark (output.flatMap Stmt.tokens) := by
  have accepted : ((expand ⟨.closure, .absolute ["freestanding"]⟩ coldBody).runIn {}).1 = .ok _ :=
    rfl
  obtain ⟨-, kept, -, -⟩ := body_attributes_kept_or_traceless _ _ _ _ _
    (List.mem_singleton_self _ : _ ∈ coldBody.arguments) (by decide)
    (fun _ _ => readsBack_coldBody) accepted
  exact ⟨fun _ => readsBack_coldBody, _, accepted, kept coldMark (List.mem_singleton_self _)⟩

/-- The attribute of `body: #[cfg(x)] { f() }`. -/
def condition : Tokens :=
  [.punct '#' .alone ⟨⟨1, 6⟩, ⟨1, 7⟩⟩,
    .group .bracket [.ident "cfg" ⟨⟨1, 8⟩, ⟨1, 11⟩⟩,
      .group .parenthesis [.ident "x" ⟨⟨1, 12⟩, ⟨1, 13⟩⟩] ⟨⟨1, 11⟩, ⟨1, 14⟩⟩] ⟨⟨1, 7⟩, ⟨1, 15⟩⟩]

/-- The call in `body: #[cfg(x)] { f() }`. -/
def conditionalCall : Tokens :=
  [.ident "f" ⟨⟨1, 18⟩, ⟨1, 19⟩⟩, .group .parenthesis [] ⟨⟨1, 19⟩, ⟨1, 21⟩⟩]

/-- The tokens of `body: #[cfg(x)] { f() }`. -/
def conditionalBlock : Tokens :=
  [.ident "body" ⟨⟨1, 0⟩, ⟨1, 4⟩⟩, .punct ':' .alone ⟨⟨1, 4⟩, ⟨1, 5⟩⟩] ++ condition ++
    [.group .brace conditionalCall ⟨⟨1, 16⟩, ⟨1, 23⟩⟩]

/-- What `body: #[cfg(x)] { f() }` expands to. -/
def unconditional : Strategy → Tokens
  | .inline => conditionalCall ++ Tokens.symbol ";"
  | .closure =>
    [.enclosed .parenthesis (Tokens.symbol "|" ++ Tokens.symbol "|" ++
      [.group .brace conditionalCall ⟨⟨1, 16⟩, ⟨1, 23⟩⟩]), .enclosed .parenthesis []] ++
      Tokens.symbol ";"

theorem not_occurs_unconditional (strategy : Strategy) :
    ¬ Occurs condition (unconditional strategy) := by
  cases strategy <;>
    simp [Occurs, Token.Encloses, Token.enclosed, condition, unconditional, conditionalCall,
      Tokens.symbol, Tokens.symbol.go]

set_option maxRecDepth 4000 in
/-- A condition on the block is lost with both strategies: the call is no longer conditional. -/
theorem condition_on_block_vanishes :
    Tokens.ofText? "body: #[cfg(x)] \x7b f() \x7d" = some conditionalBlock ∧
    ∃ invocation argument, Invocation.ofTokens conditionalBlock = .ok invocation ∧
      argument ∈ invocation.arguments ∧ isBody argument ∧ condition ∈ argument.expr.carried ∧
      ∀ strategy, ∃ output,
        ((expand ⟨strategy, .absolute ["freestanding"]⟩ invocation).runIn {}).1 = .ok output ∧
        output.flatMap Stmt.tokens = unconditional strategy ∧
        ¬ Occurs condition (output.flatMap Stmt.tokens) := by
  refine ⟨rfl, _, _, rfl, List.mem_singleton_self _, rfl, List.mem_singleton_self _, ?_⟩
  intro strategy
  cases strategy with
  | inline => exact ⟨_, rfl, rfl, not_occurs_unconditional .inline⟩
  | closure => exact ⟨_, rfl, rfl, not_occurs_unconditional .closure⟩

end Unwrap

end MacroExpansion
