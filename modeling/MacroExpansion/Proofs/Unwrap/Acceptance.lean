import MacroExpansion.Proofs.ClosureCall
import Mathlib.Data.List.Forall2

/-!
# Which unwrappings are accepted

Three conditions decide whether an invocation has guards and a body: what its arguments are labelled
with, what the body is, and what the values are. They are stated here on the tree of the invocation,
seen through invisible groups by `Expr.revealed`, and the functions that compute guards and body are
shown to succeed on exactly these invocations and to give exactly what the conditions name.
-/

namespace MacroExpansion

namespace Except

theorem bind_eq_ok_iff {ε α β : Type} {first : Except ε α} {next : α → Except ε β} {value : β} :
    first >>= next = .ok value ↔ ∃ found, first = .ok found ∧ next found = .ok value := by
  cases first with
  | error failure => simp [Bind.bind, Except.bind]
  | ok found => simp [Bind.bind, Except.bind]

theorem map_eq_ok_iff {ε α β : Type} {first : Except ε α} {f : α → β} {value : β} :
    first.map f = .ok value ↔ ∃ found, first = .ok found ∧ f found = value := by
  cases first with
  | error failure => simp [Except.map]
  | ok found => simp [Except.map]

end Except

namespace Path

/-- The path that is no more than a name. -/
def ofName (name : Ident) : Path := ⟨[], [⟨[], name, []⟩]⟩

theorem name?_eq_some_iff {path : Path} {name : Ident} :
    path.name? = some name ↔ path = ofName name := by
  obtain ⟨qualifier, segments⟩ := path
  simp only [name?, ofName]
  split
  · simp_all
  · rename_i other
    constructor
    · intro h
      cases h
    · rintro ⟨rfl, rfl⟩
      exact (other name rfl rfl).elim

end Path

namespace Expr

/-- The expression without the attributes in front of it. -/
def bare : Expr → Expr
  | attributed _ inner => inner
  | expr => expr

theorem eq_or_eq_attributed (expr : Expr) :
    expr = expr.bare ∨ ∃ attributes, expr = attributed attributes expr.bare := by
  cases expr with
  | attributed attributes inner => exact .inr ⟨attributes, rfl⟩
  | _ => exact .inl rfl

/-- The expression inside its invisible groups, whatever attributes these have. -/
def revealed : Expr → Expr
  | hidden inner _ => inner.revealed
  | attributed _ (hidden inner _) => inner.revealed
  | expr => expr

end Expr

namespace Unwrap

/-- The value is this name: a path without attributes that consists of one step, and the step
neither begins at the root nor takes arguments. -/
def Names (value : Expr) (name : Ident) : Prop := value.revealed = .path (.ofName name)

/-- The code is this body: a closure without parameters, kept as it was written, or a block without
a label. Both may have attributes. -/
inductive Body.Written (code : Expr) : Body → Prop where
  | closure {head opening closing output : Tokens} {inner : Expr}
      (form : code.bare = .closure head opening [] closing output inner) :
      Written code (.closure code inner)
  | block {attributes : Tokens} {statements : List Stmt} {span : Span}
      (form : code.bare = .block [] attributes statements span) :
      Written code (.block ⟨statements, span⟩)

theorem Body.written_closure_iff {code inner : Expr} {body : Body}
    {head opening parameters closing output : Tokens}
    (form : code.bare = .closure head opening parameters closing output inner) :
    Written code body ↔ parameters = [] ∧ .closure code inner = body := by
  constructor
  · intro written
    cases written with
    | closure other =>
        obtain ⟨-, -, rfl, -, -, rfl⟩ := Expr.closure.inj (form.symm.trans other)
        exact ⟨rfl, rfl⟩
    | block other => exact nomatch form.symm.trans other
  · rintro ⟨rfl, rfl⟩
    exact .closure form

theorem Body.written_block_iff {code : Expr} {body : Body} {label attributes : Tokens}
    {statements : List Stmt} {span : Span}
    (form : code.bare = .block label attributes statements span) :
    Written code body ↔ label = [] ∧ .block ⟨statements, span⟩ = body := by
  constructor
  · intro written
    cases written with
    | closure other => exact nomatch form.symm.trans other
    | block other =>
        obtain ⟨rfl, -, rfl, rfl⟩ := Expr.block.inj (form.symm.trans other)
        exact ⟨rfl, rfl⟩
  · rintro ⟨rfl, rfl⟩
    exact .block form

/-- The expression is this body inside its invisible groups. -/
def Denotes (expr : Expr) (body : Body) : Prop := body.Written expr.revealed

theorem bindingName_eq_ok_iff {value : Expr} {name : Ident} :
    bindingName value = .ok name ↔ Names value name := by
  unfold Names
  fun_induction Expr.revealed value with
  | case1 inner span ih => simpa [bindingName] using ih
  | case2 attributes inner span ih => simpa [bindingName] using ih
  | case3 expr notHidden notAttributed =>
      unfold bindingName
      split
      · exact absurd rfl (notHidden _ _)
      · exact absurd rfl (notAttributed _ _ _)
      · rename_i path
        rw [Expr.path.injEq, ← Path.name?_eq_some_iff]
        cases path.name? <;> simp
      · rename_i notPath
        simp only [reduceCtorEq, false_iff]
        exact notPath _

theorem ofExpr_eq_ok_iff {expr : Expr} {body : Body} :
    Body.ofExpr expr = .ok body ↔ Denotes expr body := by
  unfold Denotes
  fun_induction Body.ofExpr expr with
  | case1 inner span ih => simpa [Expr.revealed] using ih
  | case2 attributes inner span ih => simpa [Expr.revealed] using ih
  | case3 head opening parameters closing output inner empty =>
      rw [Expr.revealed, Body.written_closure_iff rfl]
      · simp [List.isEmpty_iff.mp empty]
      all_goals nofun
  | case4 head opening parameters closing output inner full =>
      rw [Expr.revealed, Body.written_closure_iff rfl]
      · simp [mt List.isEmpty_iff.mpr full]
      all_goals nofun
  | case5 attributes head opening parameters closing output inner empty =>
      rw [Expr.revealed, Body.written_closure_iff rfl]
      · simp [List.isEmpty_iff.mp empty]
      all_goals nofun
  | case6 attributes head opening parameters closing output inner full =>
      rw [Expr.revealed, Body.written_closure_iff rfl]
      · simp [mt List.isEmpty_iff.mpr full]
      all_goals nofun
  | case7 attributes statements span =>
      rw [Expr.revealed, Body.written_block_iff rfl]
      · simp
      all_goals nofun
  | case8 outer attributes statements span =>
      rw [Expr.revealed, Body.written_block_iff rfl]
      · simp
      all_goals nofun
  | case9 expr notHidden notGroup notClosure notAttributedClosure notBlock notAttributedBlock =>
      simp only [reduceCtorEq, false_iff]
      rw [Expr.revealed]
      · intro written
        -- The code is bare or has attributes, and both forms were refused before.
        cases written with
        | closure form =>
            obtain whole | ⟨attributes, whole⟩ := expr.eq_or_eq_attributed
            · exact notClosure _ _ _ _ _ _ (whole.trans form)
            · exact notAttributedClosure _ _ _ _ _ _ _ (form ▸ whole)
        | block form =>
            obtain whole | ⟨attributes, whole⟩ := expr.eq_or_eq_attributed
            · exact notBlock _ _ _ (whole.trans form)
            · exact notAttributedBlock _ _ _ _ (form ▸ whole)
      · exact notHidden
      · exact notGroup

/-- There are names for values exactly if every value is a name. -/
theorem mapM_bindingName_eq_ok_iff {values : List Expr} {names : List Ident} :
    values.mapM bindingName = .ok names ↔ List.Forall₂ Names values names := by
  induction values generalizing names with
  | nil => simp [pure, Except.pure, eq_comm]
  | cons value rest ih =>
      rw [List.mapM_cons]
      simp only [Except.bind_eq_ok_iff, bindingName_eq_ok_iff, ih]
      constructor
      · rintro ⟨name, named, others, all, done⟩
        cases done
        exact .cons named all
      · intro all
        cases all with
        | cons named all => exact ⟨_, named, _, all, rfl⟩

/-- Guards are made from names. -/
theorem guards_eq_map (module : Path) (location : Location) (values : List Expr) :
    guards module location values =
      (values.mapM bindingName).map (List.zipWith (guard module location) values) := by
  induction values with
  | nil => rfl
  | cons value rest ih =>
      rw [guards, ih, List.mapM_cons]
      cases bindingName value with
      | error failure => rfl
      | ok name => cases rest.mapM bindingName <;> rfl

/-- The guards of values, and when there are any: every value is a name. -/
theorem guards_eq_ok_iff {module : Path} {location : Location} {values : List Expr}
    {found : List Stmt} :
    guards module location values = .ok found ↔
      ∃ names, List.Forall₂ Names values names ∧
        found = List.zipWith (guard module location) values names := by
  rw [guards_eq_map, Except.map_eq_ok_iff]
  simp only [mapM_bindingName_eq_ok_iff, eq_comm (a := found)]

/-- The invocation has this body: an argument labelled as the body is it, or the block behind the
arguments is. -/
def HasBody (invocation : Invocation) (body : Body) : Prop :=
  (∃ argument ∈ invocation.arguments, isBody argument ∧ Denotes argument.expr body) ∨
    ∃ trailing, invocation.trailing = some trailing ∧ body = .block trailing.block

/-- No argument but one is labelled as the body, and it is there exactly if no block follows the
arguments. -/
structure SingleBody (invocation : Invocation) : Prop where
  atMostOne : (invocation.arguments.filter isBody).length ≤ 1
  eitherWay : (∃ argument ∈ invocation.arguments, isBody argument) ↔ invocation.trailing = none

theorem SingleBody.unique {invocation : Invocation} (single : SingleBody invocation)
    {first second : Argument} (h₁ : first ∈ invocation.arguments ∧ isBody first)
    (h₂ : second ∈ invocation.arguments ∧ isBody second) : first = second := by
  have bound := single.atMostOne
  rw [← List.mem_filter] at h₁ h₂
  match invocation.arguments.filter isBody, bound, h₁, h₂ with
  | [only], _, h₁, h₂ => exact (List.mem_singleton.mp h₁).trans (List.mem_singleton.mp h₂).symm

/-- What an invocation must be like to be expanded. -/
structure WellFormed (invocation : Invocation) : Prop extends SingleBody invocation where
  /-- The argument for the body is a closure without parameters or a block without a label. -/
  body : ∀ argument ∈ invocation.arguments, isBody argument → ∃ body, Denotes argument.expr body
  /-- Every other argument, whatever its label, is a name. -/
  values : ∀ argument ∈ invocation.arguments, ¬ isBody argument →
    ∃ name, Names argument.expr name

/-- The body of an invocation, and when there is one. -/
theorem body_eq_ok_iff {site : Span} {invocation : Invocation} {found : Body} :
    Unwrap.body site invocation = .ok found ↔
      SingleBody invocation ∧ HasBody invocation found := by
  have labelled (P : Argument → Prop) :
      (∃ argument ∈ invocation.arguments, isBody argument ∧ P argument) ↔
        ∃ argument ∈ invocation.arguments.filter isBody, P argument := by
    simp only [List.mem_filter, and_assoc]
  have present : (∃ argument ∈ invocation.arguments, isBody argument) ↔
      ∃ argument, argument ∈ invocation.arguments.filter isBody := by
    simp only [List.mem_filter]
  have single : SingleBody invocation ↔
      (invocation.arguments.filter isBody).length ≤ 1 ∧
        ((∃ argument, argument ∈ invocation.arguments.filter isBody) ↔
          invocation.trailing = none) :=
    ⟨fun h => ⟨h.1, present.symm.trans h.2⟩, fun h => ⟨h.1, present.trans h.2⟩⟩
  rw [single, HasBody, labelled, Unwrap.body, bodyArgument?]
  match invocation.arguments.filter isBody, invocation.trailing with
  | [], none => simp [bind, Except.bind]
  | [], some trailing => simp [bind, Except.bind, pure, Except.pure, eq_comm]
  | [argument], none => simp [bind, Except.bind, ofExpr_eq_ok_iff]
  | [argument], some trailing => simp [bind, Except.bind]
  | first :: second :: rest, trailing => simp [bind, Except.bind]

theorem exists_forall₂_names_iff {values : List Expr} :
    (∃ names, List.Forall₂ Names values names) ↔ ∀ value ∈ values, ∃ name, Names value name := by
  induction values with
  | nil => exact iff_of_true ⟨[], .nil⟩ nofun
  | cons value rest ih =>
      rw [List.forall_mem_cons, ← ih]
      constructor
      · rintro ⟨_, _ | ⟨named, all⟩⟩
        exact ⟨⟨_, named⟩, _, all⟩
      · rintro ⟨⟨name, named⟩, names, all⟩
        exact ⟨name :: names, .cons named all⟩

/-- The well-formed invocations are those that have a single body and only names for values. -/
theorem wellFormed_iff {invocation : Invocation} :
    WellFormed invocation ↔
      SingleBody invocation ∧ (∃ body, HasBody invocation body) ∧
        ∃ names, List.Forall₂ Names (values invocation.arguments) names := by
  have named : (∀ value ∈ values invocation.arguments, ∃ name, Names value name) ↔
      ∀ argument ∈ invocation.arguments, ¬ isBody argument →
        ∃ name, Names argument.expr name := by
    simp only [values, List.forall_mem_map, List.mem_filter, and_imp, Bool.not_eq_true']
    simp only [Bool.not_eq_true]
  rw [exists_forall₂_names_iff, named]
  constructor
  · intro formed
    refine ⟨formed.toSingleBody, ?_, formed.values⟩
    cases behind : invocation.trailing with
    | none =>
        obtain ⟨argument, member, labelled⟩ := formed.eitherWay.mpr behind
        obtain ⟨body, denoted⟩ := formed.body argument member labelled
        exact ⟨body, .inl ⟨argument, member, labelled, denoted⟩⟩
    | some trailing => exact ⟨_, .inr ⟨trailing, behind, rfl⟩⟩
  · rintro ⟨single, ⟨body, has⟩, named⟩
    refine ⟨single, fun argument member labelled => ⟨body, ?_⟩, named⟩
    obtain ⟨other, otherMember, otherLabelled, denoted⟩ | ⟨trailing, behind, -⟩ := has
    · have same : argument = other :=
        single.unique ⟨member, labelled⟩ ⟨otherMember, otherLabelled⟩
      exact same ▸ denoted
    · have absent := single.eitherWay.mp ⟨argument, member, labelled⟩
      rw [behind] at absent
      cases absent

/-- Guards and body are found for exactly the well-formed invocations. -/
theorem parts_eq_ok_iff {module : Path} {site : Span} {location : Location}
    {invocation : Invocation} {found : List Stmt} {body : Body} :
    parts module site location invocation = .ok (found, body) ↔
      SingleBody invocation ∧ HasBody invocation body ∧
        ∃ names, List.Forall₂ Names (values invocation.arguments) names ∧
          found = List.zipWith (guard module location) (values invocation.arguments) names := by
  unfold parts
  simp only [Except.bind_eq_ok_iff, body_eq_ok_iff, guards_eq_ok_iff]
  constructor
  · rintro ⟨_, ⟨single, has⟩, _, ⟨names, all, rfl⟩, done⟩
    obtain ⟨rfl, rfl⟩ := Prod.mk.inj (Except.ok.inj done)
    exact ⟨single, has, names, all, rfl⟩
  · rintro ⟨single, has, names, all, rfl⟩
    exact ⟨_, ⟨single, has⟩, _, ⟨names, all, rfl⟩, rfl⟩

end Unwrap

end MacroExpansion
