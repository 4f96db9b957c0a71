import MacroExpansion.Proofs.Color.Reference
import MacroExpansion.Proofs.Unwrap.Acceptance

/-!
# Invisible groups make no difference

Code that was handed on through another macro arrives in invisible groups. `Invocation.Wraps` says
that an invocation is another one with such groups around some of its expressions, and the two come
to the same: whoever looks at an argument looks through its groups.

What remains of them are places. A failure at a whole argument, a diagnostic at a literal that is
none, and the first word of a guard point at the group. And the space of a color, which nobody looks
into, is passed on with its groups.
-/

namespace MacroExpansion

/-! ### Forgetting places -/

mutual

/-- The token as if it were made up. -/
def Token.unplaced : Token → Token
  | .ident text _ => .ident text .callSite
  | .punct c spacing _ => .punct c spacing .callSite
  | .literal text _ => .literal text .callSite
  | .group delimiter inner _ => .group delimiter (Tokens.unplaced inner) .callSite

/-- The tokens as if they were made up. -/
def Tokens.unplaced : Tokens → Tokens
  | [] => []
  | token :: rest => token.unplaced :: Tokens.unplaced rest

end

@[simp] theorem Tokens.unplaced_append (front rest : Tokens) :
    unplaced (front ++ rest) = unplaced front ++ unplaced rest := by
  induction front with
  | nil => simp [unplaced]
  | cons token front ih => simp [unplaced, ih]

/-- Failures for the same reason. -/
inductive Failure.Alike : Failure → Failure → Prop where
  | unreadable (error : SyntaxError) : Alike (.unreadable error) (.unreadable error)
  | misuse (reason : Misuse) (span elsewhere : Span) :
      Alike (.misuse reason span) (.misuse reason elsewhere)

namespace Failure

theorem Alike.refl (failure : Failure) : Alike failure failure := by
  cases failure with
  | unreadable error => exact .unreadable error
  | misuse reason span => exact .misuse reason span span

end Failure

/-- Results that are related, or failures for the same reason. -/
inductive Except.Alike {α : Type} (same : α → α → Prop) :
    Except Failure α → Except Failure α → Prop where
  | ok {value other : α} (related : same value other) : Alike same (.ok value) (.ok other)
  | error {failure other : Failure} (alike : failure.Alike other) :
      Alike same (.error failure) (.error other)

namespace Except

variable {α β : Type} {same : α → α → Prop} {related : β → β → Prop}

theorem Alike.of_eq {result other : Except Failure α} (eq : result = other)
    (refl : ∀ value, same value value) : Alike same result other := by
  subst eq
  cases result with
  | ok value => exact .ok (refl value)
  | error failure => exact .error (.refl failure)

theorem Alike.bind {first second : Except Failure α} {next after : α → Except Failure β}
    (alike : Alike same first second)
    (rest : ∀ value other, same value other → Alike related (next value) (after other)) :
    Alike related (first >>= next) (second >>= after) := by
  cases alike with
  | ok found => exact rest _ _ found
  | error failed => exact .error failed

theorem Alike.map {first second : Except Failure α} {f g : α → β} (alike : Alike same first second)
    (keep : ∀ value other, same value other → related (f value) (g other)) :
    Alike related (first.map f) (second.map g) := by
  cases alike with
  | ok found => exact .ok (keep _ _ found)
  | error failed => exact .error failed

end Except

/-! ### Expressions inside invisible groups -/

namespace Expr

/-- The second expression is the first inside any number of invisible groups without attributes. -/
inductive Wraps (inner : Expr) : Expr → Prop where
  | refl : Wraps inner inner
  | group {outer : Expr} (wraps : Wraps inner outer) (span : Span) :
      Wraps inner (.hidden outer span)

/-- Whoever looks through one group looks through all of them. -/
theorem Wraps.congr {α : Type} {f : Expr → α} {inner outer : Expr} (wraps : Wraps inner outer)
    (through : ∀ expr span, f (.hidden expr span) = f expr) : f outer = f inner := by
  induction wraps with
  | refl => rfl
  | group _ span ih => rw [through, ih]

theorem Wraps.integerLiteral?_eq {inner outer : Expr} (wraps : Wraps inner outer) :
    outer.integerLiteral? = inner.integerLiteral? :=
  wraps.congr fun _ _ => by rw [integerLiteral?]

theorem Wraps.bindingName_eq {inner outer : Expr} (wraps : Wraps inner outer) :
    Unwrap.bindingName outer = Unwrap.bindingName inner :=
  wraps.congr fun _ _ => by rw [Unwrap.bindingName]

theorem Wraps.ofExpr_eq {inner outer : Expr} (wraps : Wraps inner outer) :
    Unwrap.Body.ofExpr outer = Unwrap.Body.ofExpr inner :=
  wraps.congr fun _ _ => by rw [Unwrap.Body.ofExpr]

end Expr

/-- The second argument is the first with its expression in invisible groups. -/
structure Argument.Wraps (inner outer : Argument) : Prop where
  label : outer.label = inner.label
  expr : inner.expr.Wraps outer.expr

/-- The second invocation is the first with expressions of its arguments in invisible groups. -/
structure Invocation.Wraps (inner outer : Invocation) : Prop where
  items : List.Forall₂ (fun item other : Argument × Tokens =>
    item.1.Wraps other.1 ∧ other.2 = item.2) inner.items outer.items
  trailing : outer.trailing = inner.trailing

namespace Invocation

variable {inner outer : Invocation}

theorem Wraps.size_eq (wraps : Wraps inner outer) : outer.size = inner.size :=
  wraps.items.length_eq.symm

theorem Wraps.arguments (wraps : Wraps inner outer) :
    List.Forall₂ Argument.Wraps inner.arguments outer.arguments := by
  rw [Invocation.arguments, Invocation.arguments, List.forall₂_map_left_iff,
    List.forall₂_map_right_iff]
  exact wraps.items.imp fun _ _ both => both.1

end Invocation

/-! ### Unwrappings -/

namespace Unwrap

theorem isBody_of_wraps {inner outer : Argument} (wraps : inner.Wraps outer) :
    isBody outer = isBody inner := by
  rw [isBody, isBody, Argument.isLabelled, Argument.isLabelled, wraps.label]

theorem filter_of_wraps {inner outer : List Argument} (p : Bool → Bool)
    (wraps : List.Forall₂ Argument.Wraps inner outer) :
    List.Forall₂ Argument.Wraps (inner.filter fun argument => p (isBody argument))
      (outer.filter fun argument => p (isBody argument)) := by
  induction wraps with
  | nil => exact .nil
  | @cons argument other inner outer first rest ih =>
      rw [List.filter_cons, List.filter_cons, isBody_of_wraps first]
      split
      · exact .cons first ih
      · exact ih

theorem values_of_wraps {inner outer : List Argument}
    (wraps : List.Forall₂ Argument.Wraps inner outer) :
    List.Forall₂ Expr.Wraps (values inner) (values outer) := by
  rw [values, values, List.forall₂_map_left_iff, List.forall₂_map_right_iff]
  exact (filter_of_wraps (!·) wraps).imp fun _ _ both => both.expr

theorem mapM_bindingName_of_wraps {inner outer : List Expr}
    (wraps : List.Forall₂ Expr.Wraps inner outer) :
    outer.mapM bindingName = inner.mapM bindingName := by
  induction wraps with
  | nil => rfl
  | cons first rest ih => rw [List.mapM_cons, List.mapM_cons, first.bindingName_eq, ih]

/-- The same body, up to the place of a failure. -/
theorem body_of_wraps {inner outer : Invocation} (wraps : inner.Wraps outer) (site : Span) :
    Except.Alike (· = ·) (body site inner) (body site outer) := by
  have labelled := filter_of_wraps id wraps.arguments
  simp only [id_eq] at labelled
  unfold body bodyArgument?
  rw [wraps.trailing]
  match inner.arguments.filter isBody, outer.arguments.filter isBody, labelled with
  | [], [], _ => exact .of_eq rfl fun _ => rfl
  | [argument], [other], .cons first .nil =>
      cases inner.trailing with
      | none => exact .of_eq first.expr.ofExpr_eq.symm fun _ => rfl
      | some trailing => exact .error (.misuse ..)
  | _ :: second :: _, _ :: other :: _, .cons _ (.cons _ _) => exact .error (.misuse ..)

/-- Guards of the same names, each of them with a value of its own. -/
structure SameParts (module : Path) (location : Location) (inner outer : Invocation)
    (found other : List Stmt × Body) : Prop where
  guards : ∃ names,
    found.1 = List.zipWith (guard module location) (values inner.arguments) names ∧
    other.1 = List.zipWith (guard module location) (values outer.arguments) names
  body : found.2 = other.2

theorem parts_of_wraps {inner outer : Invocation} (wraps : inner.Wraps outer) (module : Path)
    (site : Span) (location : Location) :
    Except.Alike (SameParts module location inner outer) (parts module site location inner)
      (parts module site location outer) := by
  have named := mapM_bindingName_of_wraps (values_of_wraps wraps.arguments)
  refine (body_of_wraps wraps site).bind ?_
  rintro body _ rfl
  rw [guards_eq_map, guards_eq_map, named]
  cases (values inner.arguments).mapM bindingName with
  | error failure => exact .error (.refl failure)
  | ok names => exact .ok ⟨⟨names, rfl, rfl⟩, rfl⟩

theorem length_guards_of_wraps {module : Path} {location : Location} {inner outer : Invocation}
    (wraps : inner.Wraps outer) {found other : List Stmt × Body}
    (same : SameParts module location inner outer found other) :
    other.1.length = found.1.length := by
  obtain ⟨names, left, right⟩ := same.guards
  rw [left, right, List.length_zipWith, List.length_zipWith,
    (values_of_wraps wraps.arguments).length_eq]

/-- Guards of the same name have the same tokens but for places. -/
theorem unplaced_guard (module : Path) (location : Location) (value other : Expr) (name : Ident) :
    (guard module location value name).tokens.unplaced =
      (guard module location other name).tokens.unplaced := by
  simp [guard, Stmt.tokens, Stmt.print, Binding.tokens, Tokens.unplaced, Token.unplaced]

theorem unplaced_guards (module : Path) (location : Location) {values others : List Expr}
    (length : values.length = others.length) (names : List Ident) :
    Tokens.unplaced
        ((List.zipWith (guard module location) values names).flatMap Stmt.tokens) =
      Tokens.unplaced
        ((List.zipWith (guard module location) others names).flatMap Stmt.tokens) := by
  induction names generalizing values others with
  | nil => simp
  | cons name names ih =>
      match values, others, length with
      | [], [], _ => rfl
      | value :: values, other :: others, length =>
          rw [List.zipWith_cons_cons, List.zipWith_cons_cons, List.flatMap_cons,
            List.flatMap_cons, Tokens.unplaced_append, Tokens.unplaced_append,
            unplaced_guard module location value other name, ih (Nat.succ.inj length)]

/-- Guards of the same names, each of them with a value of its own, and the same statements behind
them. -/
def SameStatements (module : Path) (location : Location) (inner outer : Invocation)
    (found other : List Stmt) : Prop :=
  ∃ names emitted,
    found = List.zipWith (guard module location) (values inner.arguments) names ++ emitted ∧
    other = List.zipWith (guard module location) (values outer.arguments) names ++ emitted

theorem SameStatements.unplaced {module : Path} {location : Location} {inner outer : Invocation}
    {found other : List Stmt} (same : SameStatements module location inner outer found other)
    (wraps : inner.Wraps outer) :
    Tokens.unplaced (found.flatMap Stmt.tokens) = Tokens.unplaced (other.flatMap Stmt.tokens) := by
  obtain ⟨names, emitted, rfl, rfl⟩ := same
  have length := (values_of_wraps wraps.arguments).length_eq
  rw [List.flatMap_append, List.flatMap_append, Tokens.unplaced_append, Tokens.unplaced_append,
    unplaced_guards module location length names]

/-- An unwrapping comes to the same with and without groups, and adds the same. -/
theorem outcome_of_wraps {inner outer : Invocation} (wraps : inner.Wraps outer)
    (options : Options) (site : Span) (location : Location) :
    Except.Alike (SameStatements options.module location inner outer)
        (outcome options site location inner).1 (outcome options site location outer).1 ∧
      (outcome options site location inner).2 = (outcome options site location outer).2 := by
  have alike := parts_of_wraps wraps options.module site location
  unfold outcome
  rw [wraps.size_eq]
  generalize parts options.module site location inner = found at alike ⊢
  generalize parts options.module site location outer = other at alike ⊢
  cases alike with
  | error alike => exact ⟨.error alike, rfl⟩
  | @ok found other same =>
      obtain ⟨guards, body⟩ := found
      obtain ⟨others, _⟩ := other
      have length := length_guards_of_wraps wraps same
      obtain ⟨⟨names, rfl, rfl⟩, rfl⟩ := same
      constructor
      · dsimp only
        cases body.emit options.strategy with
        | error failure => exact .error (.refl failure)
        | ok emitted => exact .ok ⟨names, emitted, rfl, rfl⟩
      · dsimp only at length ⊢
        rw [length]

end Unwrap

/-! ### Colors -/

namespace Color

/-- The choice among arguments with groups is the choice among those without. -/
theorem chooseArguments_of_wraps {inner outer : List Argument}
    (wraps : List.Forall₂ Argument.Wraps inner outer) :
    Option.Rel (fun found other : Option Expr × Expr =>
        Option.Rel Expr.Wraps found.1 other.1 ∧ found.2.Wraps other.2)
      (chooseArguments inner) (chooseArguments outer) := by
  match inner, outer, wraps with
  | [], [], _ => exact .none
  | [_], [_], .cons first .nil => exact .some ⟨.none, first.expr⟩
  | _ :: _ :: _, _ :: _ :: _, .cons first (.cons second _) =>
      exact .some ⟨.some first.expr, second.expr⟩

/-- The same call, but with the groups around the space if there is one; or no call. -/
inductive SameCall (module : Path) (inner outer : Invocation) :
    Option Expr → Option Expr → Prop where
  | refused : SameCall module inner outer none none
  | call {space elsewhere : Option Expr} {literal other : Expr}
      (chosen : Chosen (inner.arguments.map (·.expr)) space literal)
      (chosen' : Chosen (outer.arguments.map (·.expr)) elsewhere other)
      (wrapped : Option.Rel Expr.Wraps space elsewhere) (rgb : Rgb) (place : Span) :
      SameCall module inner outer (some (construct module space rgb place))
        (some (construct module elsewhere rgb place))

/-- A color comes to the same with and without groups, and adds the same but for the place of a
diagnostic. -/
theorem outcome_of_wraps {inner outer : Invocation} (wraps : inner.Wraps outer) (module : Path)
    (site : Span) :
    SameCall module inner outer (outcome module site inner).1 (outcome module site outer).1 ∧
    (outcome module site inner).2.reports.map (·.fault) =
      (outcome module site outer).2.reports.map (·.fault) ∧
    (outcome module site inner).2.names = (outcome module site outer).2.names ∧
    (outcome module site inner).2.events = (outcome module site outer).2.events := by
  have choice := chooseArguments_of_wraps wraps.arguments
  have entered : entering outer = entering inner := by rw [entering, entering, wraps.size_eq]
  unfold outcome verdict
  rw [entered]
  generalize first : chooseArguments inner.arguments = found at choice ⊢
  generalize second : chooseArguments outer.arguments = other at choice ⊢
  cases choice with
  | none => exact ⟨.refused, rfl, rfl, rfl⟩
  | @some found other both =>
      dsimp only
      rw [both.2.integerLiteral?_eq]
      cases found.2.integerLiteral? with
      | none => exact ⟨.refused, rfl, rfl, rfl⟩
      | some literal =>
          obtain ⟨text, place⟩ := literal
          dsimp only
          cases Rgb.ofLiteral? text with
          | none => exact ⟨.refused, rfl, rfl, rfl⟩
          | some rgb =>
              exact ⟨.call (chosen_of_chooseArguments first) (chosen_of_chooseArguments second)
                both.1 rgb place, rfl, rfl, rfl⟩

end Color

/-! ### Both macros -/

/-- Contexts that differ at most in where their diagnostics point. -/
structure Context.Alike (context other : Context) : Prop where
  site : context.site = other.site
  place : context.place = other.place
  faults : context.pending.map (·.fault) = other.pending.map (·.fault)
  names : context.names = other.names
  trace : context.trace = other.trace

namespace Builtin

/-- Invisible groups around the expressions of arguments change nothing but places: not what is
accepted, reported or noted, not the reason of a failure, not a guard, a statement or a call. Only
the space of a color keeps them. -/
theorem groups_transparent (options : Options) {inner outer : Invocation}
    (wraps : inner.Wraps outer) (context : Context) :
    ((∃ found other, Color.SameCall options.module inner outer found other ∧
        ((color.expand options inner).runIn context).1 = .ok (found.elim .empty .expr) ∧
        ((color.expand options outer).runIn context).1 = .ok (other.elim .empty .expr)) ∧
      Context.Alike ((color.expand options inner).runIn context).2
        ((color.expand options outer).runIn context).2) ∧
    Except.Alike
      (fun found other => ∃ statements others,
        found = .statements statements ∧ other = .statements others ∧
        Unwrap.SameStatements options.module context.location inner outer statements others ∧
        found.tokens.unplaced = other.tokens.unplaced)
      ((unwrap.expand options inner).runIn context).1
      ((unwrap.expand options outer).runIn context).1 ∧
    ((unwrap.expand options inner).runIn context).2 =
      ((unwrap.expand options outer).runIn context).2 := by
  simp only [runIn_expand, Builtin.outcome]
  refine ⟨?_, ?_⟩
  · obtain ⟨same, faults, names, events⟩ :=
      Color.outcome_of_wraps wraps options.module context.site
    refine ⟨⟨_, _, same, rfl, rfl⟩, rfl, rfl, ?_, ?_, ?_⟩
    · rw [Context.pending_apply, Context.pending_apply, List.map_append, List.map_append, faults]
    · rw [Context.names_apply, Context.names_apply, names]
    · rw [Context.trace_apply, Context.trace_apply, events]
  · obtain ⟨same, effect⟩ :=
      Unwrap.outcome_of_wraps wraps options context.site context.location
    refine ⟨?_, by rw [effect]⟩
    refine same.map fun statements others same => ?_
    exact ⟨statements, others, rfl, rfl, same, same.unplaced wraps⟩

/-- A name and a block behind it: `x => {}`. -/
def plainName : Invocation where
  items := [(⟨none, .path (.ofName (.made "x"))⟩, [])]
  trailing := some ⟨Tokens.symbol "=>", [], .callSite⟩

/-- The same with the name in two groups. -/
def groupedName : Invocation where
  items := [(⟨none, .hidden (.hidden (.path (.ofName (.made "x"))) .callSite) .callSite⟩, [])]
  trailing := some ⟨Tokens.symbol "=>", [], .callSite⟩

theorem groups_transparent_groupedName :
    plainName.Wraps groupedName ∧ ∃ statements others,
      ((unwrap.expand {} plainName).runIn {}).1 = .ok (.statements statements) ∧
      ((unwrap.expand {} groupedName).runIn {}).1 = .ok (.statements others) ∧
      Tokens.unplaced (statements.flatMap Stmt.tokens) =
        Tokens.unplaced (others.flatMap Stmt.tokens) := by
  have wraps : plainName.Wraps groupedName :=
    ⟨.cons ⟨⟨rfl, .group (.group .refl _) _⟩, rfl⟩ .nil, rfl⟩
  have accepted : ∃ statements,
      ((unwrap.expand {} plainName).runIn {}).1 = .ok (.statements statements) := ⟨_, rfl⟩
  obtain ⟨statements, ran⟩ := accepted
  obtain ⟨-, alike, -⟩ := groups_transparent {} wraps {}
  refine ⟨wraps, statements, ?_⟩
  generalize ((unwrap.expand {} groupedName).runIn {}).1 = result at alike ⊢
  rw [ran] at alike ⊢
  cases alike with
  | ok related =>
      obtain ⟨_, others, same, rfl, -, tokens⟩ := related
      cases same
      exact ⟨others, rfl, rfl, tokens⟩

end Builtin

end MacroExpansion
