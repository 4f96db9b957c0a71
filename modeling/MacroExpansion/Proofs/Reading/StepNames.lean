import MacroExpansion.Proofs.Invocation.Grammar
import MacroExpansion.Proofs.Reading.Gives
import MacroExpansion.Proofs.Reading.PlainPath
import MacroExpansion.Proofs.Unwrap.Acceptance

/-!
# The names that values are

A value to unwrap is a name, and generated code binds it again. The name may be a reserved word:
four of them are read as paths of one step wherever an expression may stand. A fifth one, `try`, is
read as a path only in front of an exclamation mark or a separator, and a value that ends there is
no argument. So the name of a value that was read is always a step of a path.

All forms but paths, and invisible groups around them, are no names; `Expr.Unnamed` says so for each
of them. What an expression grows by makes it such a form.
-/

namespace MacroExpansion

open Tokens TokenReader Unwrap
open Identifier (IsStep)

namespace Expr

/-- The expression is no name, and no invisible group around one. -/
class Unnamed (expr : Expr) : Prop where
  other (name : Ident) : ¬ Unwrap.Names expr name

theorem unnamed_of_form {expr : Expr} (shown : expr.revealed = expr)
    (other : ∀ path, expr ≠ .path path) : expr.Unnamed where
  other _ named := other _ (shown.symm.trans named)

instance (token : Token) : Unnamed (.literal token) := unnamed_of_form rfl nofun

instance (head opening parameters closing output : Tokens) (body : Expr) :
    Unnamed (.closure head opening parameters closing output body) := unnamed_of_form rfl nofun

instance (label attributes : Tokens) (statements : List Stmt) (span : Span) :
    Unnamed (.block label attributes statements span) := unnamed_of_form rfl nofun

instance (label tokens : Tokens) : Unnamed (.control label tokens) := unnamed_of_form rfl nofun

instance (call : MacroCall) : Unnamed (.macroCall call) := unnamed_of_form rfl nofun

instance (operator : Tokens) (operand : Expr) : Unnamed (.unary operator operand) :=
  unnamed_of_form rfl nofun

instance (left : Expr) (operator : Operator) (right : Expr) :
    Unnamed (.binary left operator right) := unnamed_of_form rfl nofun

instance (operand : Expr) (keyword : Tokens) (type : TypeCode) :
    Unnamed (.cast operand keyword type) := unnamed_of_form rfl nofun

instance (start : Option Expr) (operator : Tokens) (stop : Option Expr) :
    Unnamed (.range start operator stop) := unnamed_of_form rfl nofun

instance (function : Expr) (arguments : List Element) (span : Span) :
    Unnamed (.call function arguments span) := unnamed_of_form rfl nofun

instance (base : Expr) (position : Token) : Unnamed (.index base position) :=
  unnamed_of_form rfl nofun

instance (base : Expr) (suffix : Tokens) : Unnamed (.select base suffix) :=
  unnamed_of_form rfl nofun

instance (keyword label : Tokens) (value : Option Expr) : Unnamed (.jump keyword label value) :=
  unnamed_of_form rfl nofun

instance (head : Tokens) (value : Expr) : Unnamed (.condition head value) :=
  unnamed_of_form rfl nofun

instance (tokens : Tokens) : Unnamed (.atom tokens) := unnamed_of_form rfl nofun

instance (tokens : Tokens) : Unnamed (.untouched tokens) := unnamed_of_form rfl nofun

/-- Attributes make nothing a name. -/
theorem names_of_withAttributes {attributes : Tokens} {expr : Expr} {name : Ident}
    (named : Names (expr.withAttributes attributes) name) : Names expr name := by
  unfold withAttributes at named
  split at named
  · exact named
  · split at named
    · rename_i inner expr
      unfold Names at named ⊢
      cases expr with
      | hidden => exact named
      | _ => cases named
    · exact named
    · unfold Names at named ⊢
      cases expr with
      | hidden => exact named
      | _ => cases named

instance (expr : Expr) [own : expr.Unnamed] : Gives Unnamed (pure expr) := .pure own

end Expr

namespace TokenReader

variable {α : Type}

/-- What is read depends on a condition. -/
theorem ite_eq_ok {condition : Prop} [Decidable condition] {yes no : TokenReader α}
    {input after : Input} {value : α}
    (read : (if condition then yes else no) input = .ok (value, after)) :
    condition ∧ yes input = .ok (value, after) ∨
      ¬ condition ∧ no input = .ok (value, after) := by
  split at read
  · exact .inl ⟨‹_›, read⟩
  · exact .inr ⟨‹_›, read⟩

/-- A reader that finds nothing stays where it is. -/
class Declines (reader : TokenReader (Option α)) : Prop where
  stays {input after : Input} (read : reader input = .ok (none, after)) : after = input

namespace Declines

instance : Declines (pure none : TokenReader (Option α)) where
  stays read := (pure_eq_ok_iff.mp read).2.symm

/-- A reader that always finds something. -/
theorem of_finds {reader : TokenReader (Option α)}
    (finds : Gives (fun found => found ≠ none) reader) : Declines reader where
  stays read := absurd rfl (finds.holds read)

instance (value : α) : Gives (fun found => found ≠ none) (pure (some value)) :=
  .pure (Option.some_ne_none value)

instance (reader : TokenReader (Option α)) [finds : Gives (fun found => found ≠ none) reader] :
    Declines reader := of_finds finds

theorem look {next : Tokens → TokenReader (Option α)} (declines : ∀ here, Declines (next here)) :
    Declines (ahead >>= next) where
  stays {input after} read := by
    rw [bind_of_ok (ahead_eq input)] at read
    exact (declines input.rest).stays read

instance (next : Tokens → TokenReader (Option α)) [declines : ∀ here, Declines (next here)] :
    Declines (ahead >>= next) := look declines

protected theorem ite {condition : Prop} [Decidable condition] {yes no : TokenReader (Option α)}
    (left : Declines yes) (right : Declines no) : Declines (if condition then yes else no) := by
  split
  · exact left
  · exact right

instance (condition : Prop) [Decidable condition] (yes no : TokenReader (Option α))
    [left : Declines yes] [right : Declines no] : Declines (if condition then yes else no) :=
  .ite left right

end Declines

end TokenReader

open MacroExpansion.Expr (Unnamed)

namespace Grammar

set_option synthInstance.maxSize 512

variable (g : Grammar)

/-! ### What an expression grows by -/

instance (operand : Expr) : Gives Unnamed (castTo g operand) := by
  unfold castTo
  refine .bind fun keyword => .bind fun type => .bind fun here => ?_
  split <;> infer_instance

instance (structs : Bool) (base : Precedence) (left : Expr) :
    Gives (Found Unnamed) (extend g structs base left) := by
  unfold extend
  refine .bind fun here => .ite inferInstance ?_
  split <;> infer_instance

instance (structs : Bool) (base : Precedence) (left : Expr) :
    Declines (extend g structs base left) := by
  unfold extend
  refine .look fun here => .ite inferInstance ?_
  split <;> infer_instance

instance (base : Expr) : Gives (Found Unnamed) (follow g base) := by
  unfold follow; infer_instance

instance (base : Expr) : Declines (follow g base) := by
  unfold follow; infer_instance

/-- The value is no name, or it stands where it was found with nothing taken in. -/
def Grown (base : Expr) (input : Input) (value : Expr) (after : Input) : Prop :=
  value.Unnamed ∨ value = base ∧ after = input

/-- A loop that lets an expression grow step by step, where each step makes it another form. -/
theorem grown_of_steps {step : Expr → TokenReader (Option Expr)}
    (loop : Expr → Nat → TokenReader Expr) (stop : ∀ base, loop base 0 = pure base)
    (next : ∀ base bound, loop base (bound + 1) = (do
      match ← step base with
      | some larger => loop larger bound
      | none => pure base))
    [forms : ∀ base, Gives (Found Unnamed) (step base)] [declines : ∀ base, Declines (step base)]
    {base value : Expr} {bound : Nat} {input after : Input}
    (read : loop base bound input = .ok (value, after)) : Grown base input value after := by
  induction bound generalizing base input with
  | zero =>
      rw [stop] at read
      obtain ⟨rfl, rfl⟩ := pure_eq_ok_iff.mp read
      exact .inr ⟨rfl, rfl⟩
  | succ bound ih =>
      rw [next] at read
      obtain ⟨found, between, one, read⟩ := bind_eq_ok_iff.mp read
      cases found with
      | none =>
          obtain ⟨rfl, rfl⟩ := pure_eq_ok_iff.mp read
          exact .inr ⟨rfl, (declines base).stays one⟩
      | some larger =>
          have own : larger.Unnamed := (forms base).holds one larger rfl
          obtain unnamed | ⟨rfl, -⟩ := ih read
          · exact .inl unnamed
          · exact .inl own

theorem grown_climb {structs : Bool} {rank : Precedence} {base value : Expr} {input after : Input}
    (read : climb g structs rank base input = .ok (value, after)) :
    Grown base input value after := by
  rw [climb, bind_of_ok (ahead_eq input)] at read
  exact grown_of_steps (climb.go g structs rank) (fun _ => rfl) (fun _ _ => rfl) read

theorem grown_trail {base value : Expr} {input after : Input}
    (read : trail g base input = .ok (value, after)) : Grown base input value after := by
  rw [trail, bind_of_ok (ahead_eq input)] at read
  exact grown_of_steps (trail.go g) (fun _ => rfl) (fun _ _ => rfl) read

/-- A path stays one unless it turns out to name a macro or a structure. -/
theorem grown_named {structs : Bool} {path : Path} {value : Expr} {input after : Input}
    (read : named g structs path input = .ok (value, after)) :
    Grown (.path path) input value after := by
  rw [named, bind_of_ok (ahead_eq input)] at read
  have macroCall : Gives Unnamed (do
      let bang ← operator "!"
      return .macroCall ⟨path, bang, ← anyGroup⟩) := inferInstance
  have struct : Gives Unnamed (do
      return .atom (path.tokens ++ (← grouped .brace (structContent g)))) := inferInstance
  split at read
  · exact .inl (macroCall.holds read)
  · split at read
    · exact .inl (struct.holds read)
    · obtain ⟨rfl, rfl⟩ := pure_eq_ok_iff.mp read
      exact .inr ⟨rfl, rfl⟩

/-! ### Atoms that are no paths -/

instance (structs : Bool) : Gives (Found Unnamed) (jump? g structs) := by
  unfold jump? breakJump bareLabel continueJump jump; infer_instance

instance : Gives (Found Unnamed) (untouched? g) := by unfold untouched?; infer_instance

instance : Declines (untouched? g) := by unfold untouched?; infer_instance

/-- What a `let` takes for its value makes no difference. -/
instance (structs : Bool) : Gives Unnamed (letCondition g structs) := by
  unfold letCondition; infer_instance

instance (label : Tokens) : Gives Unnamed (blockExpr g label) := by
  unfold blockExpr; infer_instance

instance : Gives (Found Unnamed) (control? g) := by unfold control?; infer_instance

instance : Gives Unnamed (labelled g) := by unfold labelled; infer_instance

instance (structs : Bool) : Gives Unnamed (closure g structs) := by unfold closure; infer_instance

/-- An atom is no name unless it begins with an invisible group or as a path does. -/
theorem atomRule_eq_ok {structs : Bool} {value : Expr} {input after : Input}
    (read : atomRule g structs input = .ok (value, after)) :
    value.Unnamed ∨ hiddenExpr g structs input = .ok (value, after) ∨
      seesExprPath input.rest = true ∧ ∃ path between, anyPath g false input = .ok (path, between) ∧
        named g structs path between = .ok (value, after) := by
  unfold atomRule asyncBlock at read
  rw [bind_of_ok (ahead_eq input)] at read
  obtain ⟨-, hidden⟩ | ⟨-, read⟩ := ite_eq_ok read
  · exact .inr (.inl hidden)
  obtain ⟨-, literal⟩ | ⟨-, read⟩ := ite_eq_ok read
  · exact .inl (Gives.holds (P := Unnamed) literal)
  obtain ⟨-, deferred⟩ | ⟨-, read⟩ := ite_eq_ok read
  · exact .inl (Gives.holds (P := Unnamed) deferred)
  obtain ⟨-, closure⟩ | ⟨-, read⟩ := ite_eq_ok read
  · exact .inl (Gives.holds (P := Unnamed) closure)
  obtain ⟨found, between, one, read⟩ := bind_eq_ok_iff.mp read
  cases found with
  | some form =>
      obtain ⟨rfl, -⟩ := pure_eq_ok_iff.mp read
      exact .inl (Gives.holds (P := Found Unnamed) one form rfl)
  | none =>
      obtain rfl := Declines.stays one
      obtain ⟨seen, read⟩ | ⟨-, read⟩ := ite_eq_ok read
      · obtain ⟨path, between, two, read⟩ := bind_eq_ok_iff.mp read
        exact .inr (.inr ⟨seen, path, between, two, read⟩)
      · refine .inl ((show Gives Unnamed _ from ?_).holds read)
        refine .ite inferInstance <| .option (fun form own => .pure own) ?_
        refine .ite inferInstance <| .ite inferInstance <| .option (fun form own => .pure own) ?_
        infer_instance

/-! ### Paths of one step -/

theorem anyIdent_eq_ok {name : Ident} {input after : Input}
    (read : anyIdent input = .ok (name, after)) :
    ∃ rest, input.rest.expose = name.token :: rest ∧ after = { input with rest := rest } := by
  unfold anyIdent at read
  split at read
  · rename_i text span rest front
    cases read
    exact ⟨rest, front, rfl⟩
  · exact absurd read Fails.fails

theorem ident_eq_ok {name : Ident} {input after : Input}
    (read : ident input = .ok (name, after)) : Identifier.isName name.text = true := by
  unfold ident at read
  split at read
  · split at read
    · rename_i free
      cases read
      exact free
    · cases read
  · exact absurd read Fails.fails

/-- An operator that is not there takes nothing. -/
theorem operator?_eq_nil {text : String} (some : text.toList ≠ []) {input after : Input}
    (read : operator? text input = .ok ([], after)) : after = input := by
  rw [operator?, ifAhead, bind_of_ok (ahead_eq input)] at read
  split at read
  · exact absurd rfl ((present_operator some).holds read).ne_nil
  · exact (pure_eq_ok_iff.mp read).2.symm

/-- Of the words that stand for a place, `try` alone is no step of a path. -/
theorem isStep_of_placeWord {text : String} (place : text ∈ placeWords) :
    IsStep text ∨ text = "try" := by
  have all : ∀ word ∈ placeWords, IsStep word ∨ word = "try" := by decide
  exact all text place

/-- A step is read behind its separator. It may be `try`, which takes no arguments. -/
theorem pathSegment_eq_ok {separator : Tokens} {segment : PathSegment} {input after : Input}
    (read : pathSegment g false separator input = .ok (segment, after)) :
    segment.separator = separator ∧
      (IsStep segment.name.text ∨ ∃ span rest, input.rest.expose = .ident "try" span :: rest ∧
        after.rest = rest) := by
  unfold pathSegment at read
  rw [bind_of_ok (ahead_eq input)] at read
  split at read
  · rename_i place
    obtain ⟨name, between, one, read⟩ := bind_eq_ok_iff.mp read
    obtain ⟨rfl, rfl⟩ := pure_eq_ok_iff.mp read
    obtain ⟨rest, front, rfl⟩ := anyIdent_eq_ok one
    obtain ⟨text, span⟩ := name
    have among : text ∈ placeWords := by
      simpa [Tokens.seesWords, Tokens.seesWord, Tokens.word?, front, Ident.token] using place
    obtain step | rfl := isStep_of_placeWord among
    · exact ⟨rfl, .inl step⟩
    · exact ⟨rfl, .inr ⟨span, rest, front, rfl⟩⟩
  · have kept (step : Ident) : Gives (fun segment : PathSegment =>
        segment.separator = separator ∧ segment.name = step) (do
          let here ← ahead
          if (false && here.sees "<" && !here.sees "<=" && !here.sees "<<=") ||
              (here.sees "::" && here.third.sees "<") then
            return ⟨separator, step, ← genericArguments g⟩
          else return ⟨separator, step, []⟩) :=
      .bind fun here => .ite (.bind fun arguments => .pure ⟨rfl, rfl⟩) (.pure ⟨rfl, rfl⟩)
    dsimp only at read
    split at read
    · rename_i self
      obtain ⟨step, between, one, read⟩ := bind_eq_ok_iff.mp read
      obtain ⟨same, rfl⟩ := (kept step).holds read
      obtain ⟨rest, front, -⟩ := anyIdent_eq_ok one
      have word : segment.name.text = "Self" := by
        simpa [Tokens.seesWord, Tokens.word?, front, Ident.token] using self
      refine ⟨same, .inl ?_⟩
      rw [word]
      decide
    · obtain ⟨step, between, one, read⟩ := bind_eq_ok_iff.mp read
      obtain ⟨same, rfl⟩ := (kept step).holds read
      exact ⟨same, .inl (.inl (ident_eq_ok one))⟩

/-- Steps behind others have separators, and if there are none, nothing is taken. -/
theorem pathRest_eq_ok {steps : List PathSegment} {input after : Input}
    (read : pathRest g false input = .ok (steps, after)) :
    (∀ segment ∈ steps.head?, segment.separator ≠ []) ∧ (steps = [] → after = input) := by
  rw [pathRest, bind_of_ok (ahead_eq input)] at read
  generalize input.rest.size = bound at read
  cases bound with
  | zero =>
      obtain ⟨rfl, rfl⟩ := pure_eq_ok_iff.mp read
      exact ⟨by simp, fun _ => rfl⟩
  | succ bound =>
      rw [pathRest.go, bind_of_ok (ahead_eq input)] at read
      split at read
      · obtain ⟨separator, between, one, read⟩ := bind_eq_ok_iff.mp read
        obtain ⟨segment, there, two, read⟩ := bind_eq_ok_iff.mp read
        obtain ⟨others, last, -, read⟩ := bind_eq_ok_iff.mp read
        obtain ⟨rfl, -⟩ := pure_eq_ok_iff.mp read
        have some : Present separator := (present_operator (by decide)).holds one
        obtain ⟨same, -⟩ := pathSegment_eq_ok g two
        refine ⟨?_, by simp⟩
        rintro _ ⟨⟩
        rw [same]
        exact some.ne_nil
      · obtain ⟨rfl, rfl⟩ := pure_eq_ok_iff.mp read
        exact ⟨by simp, fun _ => rfl⟩

/-- The word `try` begins a path in front of two marks only. -/
theorem marked_of_try {input : Input} {span : Span} {rest : Tokens}
    (front : input.rest.expose = .ident "try" span :: rest)
    (seen : seesExprPath input.rest = true) : rest.sees "::" = true ∨ rest.sees "!" = true := by
  have word : input.rest.word? = some "try" := by simp [Tokens.word?, front]
  have name : input.rest.seesName = false := by
    rw [Tokens.seesName, word]
    decide
  have other : input.rest.seesWords ["super", "self", "Self", "crate"] = false := by
    simp only [Tokens.seesWords, Tokens.seesWord, word]
    decide
  have next : input.rest.second = rest := by simp [Tokens.second, front]
  have path : seesPath input.rest = false := by
    simp [seesPath, name, other, sees_of_ident front "::" rfl, sees_of_ident front "<" rfl]
  simp only [seesExprPath, path, next, Bool.false_or, Bool.and_eq_true, Bool.or_eq_true] at seen
  exact seen.2.symm

/-- A path that is a name is a step of a path, or it is `try` in front of what makes it a path. -/
theorem anyPath_eq_ofName {name : Ident} {input after : Input}
    (seen : seesExprPath input.rest = true)
    (read : anyPath g false input = .ok (.ofName name, after)) :
    IsStep name.text ∨ after.rest.sees "::" = true ∨ after.rest.sees "!" = true := by
  rw [anyPath, bind_of_ok (ahead_eq input)] at read
  split at read
  · have qualified : Gives (fun path : Path => path.qualifier ≠ []) (do
        let opening ← operator "<"
        let self ← g.type true
        let trait ← ifAhead (·.seesWord "as") do
          return (← keyword "as") ++ (← simplePath g true).tokens
        let closing ← operator ">"
        return ⟨opening ++ self ++ trait ++ closing, ← relativeSteps g false⟩) := by
      refine (present_operator (by decide)).found fun opening some => ?_
      refine .bind fun self => .bind fun trait => .bind fun closing => .bind fun steps => ?_
      exact .pure Present.ne_nil
    exact absurd rfl (qualified.holds read)
  · obtain ⟨separator, between, leading, read⟩ := bind_eq_ok_iff.mp read
    obtain ⟨first, there, one, read⟩ := bind_eq_ok_iff.mp read
    obtain ⟨others, last, two, read⟩ := bind_eq_ok_iff.mp read
    obtain ⟨same, rfl⟩ := pure_eq_ok_iff.mp read
    obtain ⟨rfl, rfl⟩ : first = ⟨[], name, []⟩ ∧ others = [] := by
      simpa [Path.ofName] using same
    obtain rfl := (pathRest_eq_ok g two).2 rfl
    obtain ⟨rfl, step | ⟨span, rest, front, behind⟩⟩ := pathSegment_eq_ok g one
    · exact .inl step
    · obtain rfl := operator?_eq_nil (by decide) leading
      rw [behind]
      exact .inr (marked_of_try front seen)

/-! ### Expressions -/

/-- If the value is a name, it is a step of a path; or nothing that could follow an argument is
behind it. -/
def Settled (value : Expr) (after : Input) : Prop :=
  after.leftover = none → ∀ name, Names value name →
    IsStep name.text ∨ after.rest.sees "::" = true ∨ after.rest.sees "!" = true

theorem settled_of_unnamed {value : Expr} (unnamed : value.Unnamed) (after : Input) :
    Settled value after :=
  fun _ name named => absurd named (unnamed.other name)

/-- Where nothing of an expression follows, a name is a step of a path. -/
theorem Settled.isStep {value : Expr} {after : Input} (settled : Settled value after)
    (clean : after.leftover = none) (ends : after.rest.Ends) {name : Ident}
    (named : Names value name) : IsStep name.text := by
  have step := settled clean name named
  rwa [ends.sees_separator, ends.sees_eq_false "!" rfl (by decide), or_self,
    or_iff_left Bool.false_ne_true] at step

theorem Settled.grown {base value : Expr} {input after : Input} (settled : Settled base input)
    (grown : Grown base input value after) : Settled value after := by
  obtain unnamed | ⟨rfl, rfl⟩ := grown
  · exact settled_of_unnamed unnamed after
  · exact settled

/-- The grammar reads no name that is not a step of a path, as far as arguments go. -/
structure Settles (g : Grammar) : Prop where
  expr {structs : Bool} {input after : Input} {value : Expr}
    (read : g.expr structs input = .ok (value, after)) : Settled value after
  unary {structs : Bool} {input after : Input} {value : Expr}
    (read : g.unary structs input = .ok (value, after)) : Settled value after

variable {g}

/-- An expression alone in an invisible group has nothing behind it. -/
theorem Settles.invisible (settles : Settles g) {input after : Input} {value : Expr} {span : Span}
    (read : invisible (g.expr true) input = .ok ((value, span), after))
    (clean : after.leftover = none) {name : Ident} (named : Names value name) :
    IsStep name.text := by
  obtain ⟨inner, place, rest, front, entered⟩ := invisible_eq_ok read
  obtain ⟨done, content, rfl⟩ := inside_eq_ok entered
  obtain ⟨found, _, one, returned⟩ := bind_eq_ok_iff.mp content
  cases returned
  obtain ⟨left, nothing⟩ : done.leftover = none ∧ done.rest.leftover? .invisible = none := by
    simpa using clean
  rw [Tokens.leftover?_eq_none_iff, ← Tokens.expose_eq_nil_iff] at nothing
  exact (settles.expr one).isStep left (.inl nothing) named

/-- A path behind which steps with separators follow is no name. -/
theorem eq_ofName_of_append {path : Path} {more : List PathSegment} {name : Ident}
    (separated : ∀ segment ∈ more.head?, segment.separator ≠ [])
    (same : { path with segments := path.segments ++ more } = Path.ofName name) :
    more = [] ∧ path = .ofName name := by
  cases more with
  | nil =>
      rw [List.append_nil] at same
      exact ⟨rfl, same⟩
  | cons segment others =>
      obtain ⟨-, -, rfl, -⟩ : path.qualifier = [] ∧ path.segments = [] ∧
          segment = ⟨[], name, []⟩ ∧ others = [] := by
        simpa [Path.ofName, List.append_eq_singleton_iff] using same
      exact absurd rfl (separated _ rfl)

/-- An invisible group is the name it holds. Where a path goes on behind it, there are several
steps. -/
theorem Settles.hiddenExpr (settles : Settles g) {structs : Bool} {input after : Input}
    {value : Expr} (read : hiddenExpr g structs input = .ok (value, after)) :
    Settled value after := by
  intro clean name named
  unfold Grammar.hiddenExpr at read
  obtain ⟨⟨found, span⟩, between, opened, read⟩ := bind_eq_ok_iff.mp read
  dsimp only at read
  split at read
  · rename_i path
    obtain ⟨more, there, two, read⟩ := bind_eq_ok_iff.mp read
    obtain ⟨whole, behind, three, read⟩ := bind_eq_ok_iff.mp read
    obtain ⟨separated, stays⟩ := pathRest_eq_ok g two
    obtain ⟨named, rfl⟩ : Names whole name ∧ after = behind := by
      split at read
      · split at read
        · obtain ⟨rfl, rfl⟩ := pure_eq_ok_iff.mp read
          exact ⟨named, rfl⟩
        · obtain ⟨rfl, rfl⟩ := pure_eq_ok_iff.mp read
          exact ⟨named, rfl⟩
      · obtain ⟨rfl, rfl⟩ := pure_eq_ok_iff.mp read
        exact ⟨named, rfl⟩
    obtain unnamed | ⟨rfl, rfl⟩ := grown_named g three
    · exact absurd named (unnamed.other name)
    · obtain ⟨rfl, rfl⟩ := eq_ofName_of_append separated (Expr.path.inj named)
      rw [stays rfl] at clean
      exact .inl (settles.invisible opened clean rfl)
  · obtain ⟨rfl, rfl⟩ := pure_eq_ok_iff.mp read
    exact .inl (settles.invisible opened clean named)

theorem Settles.atomRule (settles : Settles g) {structs : Bool} {input after : Input}
    {value : Expr} (read : atomRule g structs input = .ok (value, after)) :
    Settled value after := by
  obtain unnamed | hidden | ⟨seen, path, between, one, two⟩ := atomRule_eq_ok g read
  · exact settled_of_unnamed unnamed after
  · exact settles.hiddenExpr hidden
  · refine Settled.grown ?_ (grown_named g two)
    intro _ name named
    obtain rfl : path = .ofName name := by
      simpa [Names, Expr.revealed] using named
    exact anyPath_eq_ofName g seen one

theorem Settles.attributedAtom (settles : Settles g) {structs : Bool} {start attributes : Tokens}
    {input after : Input} {value : Expr}
    (read : attributedAtom g structs start attributes input = .ok (value, after)) :
    Settled value after := by
  unfold Grammar.attributedAtom at read
  obtain ⟨atom, between, one, read⟩ := bind_eq_ok_iff.mp read
  obtain ⟨whole, behind, two, read⟩ := bind_eq_ok_iff.mp read
  have settled := (settles.atomRule one).grown (grown_trail g two)
  split at read
  · obtain ⟨tokens, there, look, read⟩ := bind_eq_ok_iff.mp read
    obtain ⟨rfl, -⟩ := pure_eq_ok_iff.mp read
    exact settled_of_unnamed inferInstance after
  · split at read
    · obtain ⟨rfl, -⟩ := pure_eq_ok_iff.mp read
      exact settled_of_unnamed inferInstance after
    · exact absurd read Fails.fails
  · obtain ⟨rfl, rfl⟩ := pure_eq_ok_iff.mp read
    intro clean name named
    exact settled clean name (Expr.names_of_withAttributes named)

theorem Settles.unaryRule (settles : Settles g) {structs : Bool} {input after : Input}
    {value : Expr} (read : unaryRule g structs input = .ok (value, after)) :
    Settled value after := by
  have signed (sign attributes : Tokens) (operand : Expr) :
      ((Expr.unary sign operand).withAttributes attributes).Unnamed :=
    ⟨fun _ named => Unnamed.other _ (Expr.names_of_withAttributes named)⟩
  unfold Grammar.unaryRule at read
  obtain ⟨start, _, _, read⟩ := bind_eq_ok_iff.mp read
  obtain ⟨attributes, _, _, read⟩ := bind_eq_ok_iff.mp read
  obtain ⟨here, _, _, read⟩ := bind_eq_ok_iff.mp read
  split at read
  · exact settles.attributedAtom read
  split at read
  · obtain ⟨mark, _, _, read⟩ := bind_eq_ok_iff.mp read
    obtain ⟨modifiers, _, _, read⟩ := bind_eq_ok_iff.mp read
    obtain ⟨operand, _, _, read⟩ := bind_eq_ok_iff.mp read
    obtain ⟨rfl, -⟩ := pure_eq_ok_iff.mp read
    exact settled_of_unnamed (signed _ _ _) after
  generalize ["*", "!", "-"].find? here.sees = sign at read
  cases sign with
  | some sign =>
      obtain ⟨mark, _, _, read⟩ := bind_eq_ok_iff.mp read
      obtain ⟨operand, _, _, read⟩ := bind_eq_ok_iff.mp read
      obtain ⟨rfl, -⟩ := pure_eq_ok_iff.mp read
      exact settled_of_unnamed (signed _ _ _) after
  | none => exact settles.attributedAtom read

theorem Settles.deepen (settles : Settles g) : Settles (deepen g) where
  unary read := settles.unaryRule read
  expr {structs input after value} read := by
    obtain ⟨first, between, one, two⟩ := bind_eq_ok_iff.mp read
    exact (settles.unary one).grown (grown_climb g two)

theorem settles_ofDepth (depth : Nat) : Settles (ofDepth depth) := by
  induction depth with
  | zero => exact ⟨nofun, nofun⟩
  | succ depth ih => exact ih.deepen

end Grammar

/-! ### The values of an invocation -/

theorem ArgumentAt.reads {g : Grammar} {before after : Tokens} {argument : Argument}
    {parts : List Part} (spelled : ArgumentAt g before argument parts after) :
    ∃ start, g.expr true (.ofTokens start) = .ok (argument.expr, .ofTokens after) := by
  cases spelled with
  | plain code => exact ⟨_, code.read⟩
  | labelled name free colon single code => exact ⟨_, code.read⟩

/-- Behind each argument of a list a comma follows, or what follows the list. -/
theorem ItemsAt.ends {g : Grammar} {before after : Tokens} {items : List (Argument × Tokens)}
    {parts : List Part} (spelled : ItemsAt g before items parts after) (ends : after.Ends) :
    ∀ item ∈ items, ∃ start behind, g.expr true (.ofTokens start) =
      .ok (item.1.expr, .ofTokens behind) ∧ behind.Ends := by
  induction spelled with
  | none => exact nofun
  | last first =>
      intro item among
      obtain rfl := List.mem_singleton.mp among
      obtain ⟨start, code⟩ := first.reads
      exact ⟨start, _, code, ends⟩
  | more first comma rest ih =>
      intro item among
      obtain rfl | among := List.mem_cons.mp among
      · obtain ⟨start, code⟩ := first.reads
        exact ⟨start, _, code, .inr (.inl (Tokens.sees_of_front rfl comma))⟩
      · exact ih ends item among

/-- An argument that is a name is a step of a path. -/
theorem Invocation.isStep_of_read {tokens : Tokens} {invocation : Invocation}
    (read : ofTokens tokens = .ok invocation) {argument : Argument}
    (among : argument ∈ invocation.arguments) {name : Ident} (named : Names argument.expr name) :
    IsStep name.text := by
  have settles : (Grammar.ofInput tokens).Settles := Grammar.settles_ofDepth _
  obtain ⟨parts, spelled⟩ := spelled_of_read (run_eq_ok_iff.mp read)
  obtain ⟨item, member, rfl⟩ := List.mem_map.mp among
  have code : ∃ start behind, (Grammar.ofInput tokens).expr true (.ofTokens start) =
      .ok (item.1.expr, .ofTokens behind) ∧ behind.Ends := by
    cases spelled with
    | bare arguments => exact arguments.ends (.inl rfl) item member
    | trailing arguments equals greater code =>
        refine arguments.ends (.inr (.inr (.inl ?_))) item member
        simp [Tokens.sees, Tokens.seesChars, equals, greater]
  obtain ⟨start, behind, code, ends⟩ := code
  exact (settles.expr code).isStep rfl ends named

end MacroExpansion
