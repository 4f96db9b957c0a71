import MacroExpansion.Proofs.ClosureCall
import MacroExpansion.Proofs.Reading.Boundary

/-!
# Plain paths

Generated code names things by paths that consist of names only. `Path.Plain` says what such a path
is like, and here it is followed through the rules of the grammar: wherever a path may stand, its
tokens are read as this path and no more, as long as what is behind them does not go on with it.

The words that a path may begin with are no others than those that are read as a path, so none of
the many words that begin something else is in the way.
-/

namespace MacroExpansion

namespace Identifier

/-- The word is a step of a path wherever a path may stand: a name, or one of four reserved
words. -/
def IsStep (text : String) : Prop :=
  isName text = true ∨ text ∈ ["super", "self", "Self", "crate"]

instance (text : String) : Decidable (IsStep text) := inferInstanceAs (Decidable (_ ∨ _))

/-- The reserved words that are no steps of a path. -/
def barred : List String :=
  reserved.filter (· ∉ ["super", "self", "Self", "crate"])

theorem IsStep.ne_of_barred {text : String} (step : IsStep text) (word : String)
    (other : word ∈ barred) : text ≠ word := by
  rintro rfl
  obtain ⟨among, apart⟩ := List.mem_filter.mp other
  obtain free | place := step
  · simp [isName, among] at free
  · exact of_decide_eq_true apart place

end Identifier

open Identifier (IsStep barred)

/-- Steps of a path, each behind its separator and without arguments. -/
inductive PathSegment.Steps : List PathSegment → Prop where
  | nil : Steps []
  | cons {first second : Span} {name : Ident} {rest : List PathSegment}
      (step : IsStep name.text) (steps : Steps rest) :
      Steps (⟨[.punct ':' .joint first, .punct ':' .alone second], name, []⟩ :: rest)

namespace PathSegment

/-- The tokens of steps in a row. -/
def listed (steps : List PathSegment) : Tokens := steps.flatMap tokens

theorem Steps.append {front back : List PathSegment} (first : Steps front) (second : Steps back) :
    Steps (front ++ back) := by
  induction first with
  | nil => exact second
  | cons step _ ih => exact .cons step ih

theorem steps_made {texts : List String} (all : ∀ text ∈ texts, IsStep text) :
    Steps (texts.map step) := by
  induction texts with
  | nil => exact .nil
  | cons text texts ih =>
      obtain ⟨first, others⟩ := List.forall_mem_cons.mp all
      exact .cons first (ih others)

end PathSegment

open PathSegment (Steps)

/-- A path that consists of names, relative or from the root on. -/
inductive Path.Plain : Path → Prop where
  | here {name : Ident} {rest : List PathSegment} (step : IsStep name.text) (steps : Steps rest) :
      Plain ⟨[], ⟨[], name, []⟩ :: rest⟩
  | root {segment : PathSegment} {rest : List PathSegment} (steps : Steps (segment :: rest)) :
      Plain ⟨[], segment :: rest⟩

namespace Path

theorem Plain.extend {path : Path} (plain : path.Plain) {texts : List String}
    (all : ∀ text ∈ texts, IsStep text) : (path.extend texts).Plain := by
  have more := PathSegment.steps_made all
  cases plain with
  | here step steps => exact .here step (steps.append more)
  | root steps => exact .root (steps.append more)

theorem plain_absolute {text : String} {texts : List String}
    (all : ∀ other ∈ text :: texts, IsStep other) : (absolute (text :: texts)).Plain :=
  .root (PathSegment.steps_made all)

theorem plain_ofIdent {name : Ident} (step : IsStep name.text) :
    Plain ⟨[], [⟨[], name, []⟩]⟩ := .here step .nil

end Path

/-! ### What a path begins with -/

/-- A step of a path is in front, or the separator of one. -/
inductive Tokens.OpensPath : Tokens → Prop where
  | word {text : String} (step : IsStep text) (span : Span) (rest : Tokens) :
      OpensPath (.ident text span :: rest)
  | separator (first second : Span) (rest : Tokens) :
      OpensPath (.punct ':' .joint first :: .punct ':' .alone second :: rest)

theorem Path.Plain.opensPath {path : Path} (plain : path.Plain) (behind : Tokens) :
    (path.tokens ++ behind).OpensPath := by
  cases plain with
  | here step steps => exact .word step _ _
  | root steps =>
      cases steps with
      | cons step steps => exact .separator _ _ _

namespace Tokens.OpensPath

variable {tokens : Tokens} (opens : tokens.OpensPath)

include opens

theorem seesInvisible : tokens.seesInvisible = false := by
  cases opens <;> rfl

theorem seesGroup (delimiter : Delimiter) : tokens.seesGroup delimiter = false := by
  cases opens <;> simp [Tokens.seesGroup]

theorem seesLifetime : tokens.seesLifetime = false := by
  cases opens <;> simp [Tokens.seesLifetime]

theorem seesWord (word : String) (other : word ∈ barred) : tokens.seesWord word = false := by
  cases opens with
  | word step span rest => simp [Tokens.seesWord, Tokens.word?, step.ne_of_barred word other]
  | separator => simp [Tokens.seesWord, Tokens.word?]

theorem seesWords {words : List String} (others : ∀ word ∈ words, word ∈ barred) :
    tokens.seesWords words = false := by
  rw [Tokens.seesWords, List.any_eq_false]
  intro word among
  rw [opens.seesWord word (others word among)]
  exact Bool.false_ne_true

theorem seesLiteral : tokens.seesLiteral = false := by
  cases opens with
  | word step span rest =>
      simp [Tokens.seesLiteral, step.ne_of_barred "true" (by decide),
        step.ne_of_barred "false" (by decide)]
  | separator => simp [Tokens.seesLiteral]

/-- No operator but the separator is in front. -/
theorem sees (text : String) {c : Char} {cs : List Char} (chars : text.toList = c :: cs)
    (other : c ≠ ':') : tokens.sees text = false := by
  cases opens with
  | word => simp [Tokens.sees, chars, seesChars]
  | separator => simp [Tokens.sees, chars, seesChars, other.symm]

omit opens in
theorem seesPlainStep {text : String} (step : IsStep text) (span : Span) (rest : Tokens) :
    Grammar.seesPlainStep (.ident text span :: rest) = true := by
  obtain free | place := step
  · simp [Grammar.seesPlainStep, seesName, word?, free]
  · simp only [List.mem_cons, List.not_mem_nil, or_false] at place
    obtain rfl | rfl | rfl | rfl := place <;>
      simp [Grammar.seesPlainStep, Tokens.seesWords, Tokens.seesWord, word?]

theorem seesPath : Grammar.seesPath tokens = true := by
  cases opens with
  | word step span rest =>
      have first : (Grammar.seesPlainStep (.ident _ span :: rest)) = true :=
        seesPlainStep step span rest
      rw [Grammar.seesPlainStep] at first
      rw [Grammar.seesPath, first]
      rfl
  | separator => simp [Grammar.seesPath, Tokens.sees, seesChars]

end Tokens.OpensPath

/-! ### Reading a plain path -/

namespace Grammar

open TokenReader Tokens.OpensPath

variable (g : Grammar) {group : Delimiter} {close : Span} {left : Option SyntaxError}

/-- The step of a path is read, and nothing behind it that does not belong to it. -/
theorem pathSegment_of_step {name : Ident} (step : IsStep name.text) (separator : Tokens)
    {behind : Tokens} (bare : (behind.sees "::" && behind.third.sees "<") = false) :
    pathSegment g false separator ⟨name.token :: behind, group, close, left⟩ =
      .ok (⟨separator, name, []⟩, ⟨behind, group, close, left⟩) := by
  obtain ⟨text, span⟩ := name
  obtain free | place := step
  · have front : (Input.mk (.ident text span :: behind) group close left).rest.expose =
        .ident text span :: behind := Tokens.expose_ident text span behind
    have word := seesWord_of_name front free
    have place : Tokens.seesWords placeWords (.ident text span :: behind) = false := by
      simp [Tokens.seesWords, placeWords, word "super" (by decide), word "self" (by decide),
        word "crate" (by decide), word "try" (by decide)]
    have self : Tokens.seesWord "Self" (.ident text span :: behind) = false :=
      word "Self" (by decide)
    have taken := ident_of_name front free
    unfold pathSegment
    rw [bind_of_ok (ahead_eq _)]
    simp only [Ident.token, place, self, Bool.false_eq_true, if_false]
    rw [bind_of_ok taken, bind_of_ok (ahead_eq _)]
    simp only [bare, Bool.false_and, Bool.or_false, Bool.false_eq_true, if_false]
    rfl
  · simp only [List.mem_cons, List.not_mem_nil, or_false] at place
    obtain rfl | rfl | rfl | rfl := place
    · rfl
    · rfl
    · have place : Tokens.seesWords placeWords (.ident "Self" span :: behind) = false := rfl
      have self : Tokens.seesWord "Self" (.ident "Self" span :: behind) = true := rfl
      have taken : anyIdent ⟨.ident "Self" span :: behind, group, close, left⟩ =
          .ok (⟨"Self", span⟩, ⟨behind, group, close, left⟩) := rfl
      unfold pathSegment
      rw [bind_of_ok (ahead_eq _)]
      simp only [Ident.token, place, self, Bool.false_eq_true, if_false, if_true]
      rw [bind_of_ok taken, bind_of_ok (ahead_eq _)]
      simp only [bare, Bool.false_and, Bool.or_false, Bool.false_eq_true, if_false]
      rfl
    · rfl

/-- What is behind a step takes no arguments: the next step, or something else. -/
theorem bare_behind_steps {steps : List PathSegment} (plain : Steps steps) {behind : Tokens}
    (ended : behind.sees "::" = false) :
    (Tokens.sees "::" (PathSegment.listed steps ++ behind) &&
      (Tokens.third (PathSegment.listed steps ++ behind)).sees "<") = false := by
  cases plain with
  | nil => simp [PathSegment.listed, ended]
  | cons step steps =>
      simp [PathSegment.listed, PathSegment.tokens, Tokens.third, Tokens.second, Tokens.sees,
        Tokens.seesChars, Ident.token]

/-- The steps of a path are read to the end. -/
theorem pathRest_go_of_steps {steps : List PathSegment} (plain : Steps steps) {behind : Tokens}
    (ended : behind.sees "::" = false) {bound : Nat} (room : steps.length ≤ bound) :
    pathRest.go g false bound
        ⟨PathSegment.listed steps ++ behind, group, close, left⟩ =
      .ok (steps, ⟨behind, group, close, left⟩) := by
  induction plain generalizing bound with
  | nil =>
      cases bound with
      | zero => rfl
      | succ bound =>
          rw [pathRest.go, bind_of_ok (ahead_eq _)]
          simp only [PathSegment.listed, List.flatMap_nil, List.nil_append, pathGoesOn, ended,
            Bool.false_and, Bool.false_eq_true, if_false]
          rfl
  | @cons first second name rest step steps ih =>
      obtain ⟨bound, rfl⟩ := Nat.exists_eq_succ_of_ne_zero (n := bound) (by
        simp only [List.length_cons] at room
        omega)
      have goesOn : pathGoesOn (.punct ':' .joint first :: .punct ':' .alone second ::
          name.token :: (PathSegment.listed rest ++ behind)) = true := by
        simp [pathGoesOn, Tokens.third, Tokens.second, Tokens.sees, Tokens.seesChars,
          Tokens.seesGroup, Ident.token]
      have taken : operator "::" ⟨.punct ':' .joint first :: .punct ':' .alone second ::
            name.token :: (PathSegment.listed rest ++ behind), group, close, left⟩ =
          .ok ([.punct ':' .joint first, .punct ':' .alone second],
            ⟨name.token :: (PathSegment.listed rest ++ behind), group, close, left⟩) := by
        rfl
      have bare := bare_behind_steps steps ended
      have others := ih (Nat.le_of_succ_le_succ room)
      change pathRest.go g false (bound + 1) ⟨.punct ':' .joint first :: .punct ':' .alone second ::
        name.token :: (PathSegment.listed rest ++ behind), group, close, left⟩ = _
      rw [pathRest.go, bind_of_ok (ahead_eq _)]
      simp only [goesOn, if_true]
      rw [bind_of_ok taken, bind_of_ok (pathSegment_of_step g step _ bare), bind_of_ok others]
      rfl

theorem length_steps_le (steps : List PathSegment) (behind : Tokens) :
    steps.length ≤ Tokens.size (PathSegment.listed steps ++ behind) := by
  induction steps with
  | nil => exact Nat.zero_le _
  | cons segment steps ih =>
      have word : Tokens.size [segment.name.token] = 1 := rfl
      have split : PathSegment.listed (segment :: steps) ++ behind =
          segment.separator ++ ([segment.name.token] ++
            (segment.arguments ++ (PathSegment.listed steps ++ behind))) := by
        simp [PathSegment.listed, PathSegment.tokens]
      rw [split, Tokens.size_append, Tokens.size_append, Tokens.size_append, word,
        List.length_cons]
      omega

theorem pathRest_of_steps {steps : List PathSegment} (plain : Steps steps) {behind : Tokens}
    (ended : behind.sees "::" = false) :
    pathRest g false ⟨PathSegment.listed steps ++ behind, group, close, left⟩ =
      .ok (steps, ⟨behind, group, close, left⟩) := by
  rw [pathRest, bind_of_ok (ahead_eq _)]
  exact pathRest_go_of_steps g plain ended (length_steps_le steps behind)

/-- The separator in front of a plain path is taken, if there is one; then come its steps. -/
theorem separator_of_plain {path : Path} (plain : path.Plain) (behind : Tokens) :
    ∃ separator name steps, path = ⟨[], ⟨separator, name, []⟩ :: steps⟩ ∧ IsStep name.text ∧
      Steps steps ∧ ∀ group close left,
        operator? "::" ⟨path.tokens ++ behind, group, close, left⟩ =
          .ok (separator, ⟨name.token :: (PathSegment.listed steps ++ behind), group, close,
            left⟩) := by
  cases plain with
  | @here name steps step plain =>
      exact ⟨[], name, steps, rfl, step, plain, fun _ _ _ => rfl⟩
  | @root segment steps plain =>
      cases plain with
      | cons step plain => exact ⟨_, _, steps, rfl, step, plain, fun _ _ _ => rfl⟩

/-- A plain path is read as itself, in front of anything that does not go on with it. -/
theorem anyPath_of_plain {path : Path} (plain : path.Plain) {behind : Tokens}
    (ended : behind.sees "::" = false) :
    anyPath g false ⟨path.tokens ++ behind, group, close, left⟩ =
      .ok (path, ⟨behind, group, close, left⟩) := by
  have angle := (plain.opensPath behind).sees "<" rfl (by decide)
  obtain ⟨separator, name, steps, rfl, step, plain, leading⟩ := separator_of_plain plain behind
  have bare := bare_behind_steps plain ended
  rw [anyPath, bind_of_ok (ahead_eq _)]
  simp only [angle, Bool.false_eq_true, if_false]
  rw [simplePath, bind_of_ok (leading group close left),
    bind_of_ok (pathSegment_of_step g step separator bare),
    bind_of_ok (pathRest_of_steps g plain ended)]
  rfl

theorem plainSteps_of_steps {steps : List PathSegment} (plain : Steps steps) {name : Ident}
    (separator : Tokens) {behind : Tokens} (ended : behind.sees "::" = false) {bound : Nat}
    (room : steps.length < bound) :
    plainSteps separator bound ⟨name.token :: (PathSegment.listed steps ++ behind), group, close,
        left⟩ =
      .ok (⟨separator, name, []⟩ :: steps, ⟨behind, group, close, left⟩) := by
  induction plain generalizing name separator bound with
  | nil =>
      obtain ⟨bound, rfl⟩ := Nat.exists_eq_succ_of_ne_zero (n := bound) (by omega)
      have word : anyIdent ⟨name.token :: (PathSegment.listed [] ++ behind), group, close, left⟩ =
          .ok (name, ⟨behind, group, close, left⟩) := rfl
      rw [plainSteps, bind_of_ok word, bind_of_ok (ahead_eq _)]
      simp only [ended, Bool.false_eq_true, if_false]
      rfl
  | @cons one two next rest step steps ih =>
      obtain ⟨bound, rfl⟩ := Nat.exists_eq_succ_of_ne_zero (n := bound) (by omega)
      have word : anyIdent ⟨name.token :: (PathSegment.listed
            (⟨[.punct ':' .joint one, .punct ':' .alone two], next, []⟩ :: rest) ++ behind),
            group, close, left⟩ =
          .ok (name, ⟨.punct ':' .joint one :: .punct ':' .alone two :: next.token ::
            (PathSegment.listed rest ++ behind), group, close, left⟩) := rfl
      have taken : operator "::" ⟨.punct ':' .joint one :: .punct ':' .alone two :: next.token ::
            (PathSegment.listed rest ++ behind), group, close, left⟩ =
          .ok ([.punct ':' .joint one, .punct ':' .alone two],
            ⟨next.token :: (PathSegment.listed rest ++ behind), group, close, left⟩) := rfl
      have goesOn : Tokens.sees "::" (.punct ':' .joint one :: .punct ':' .alone two ::
          next.token :: (PathSegment.listed rest ++ behind)) = true := rfl
      have opens : seesPlainStep (next.token :: (PathSegment.listed rest ++ behind)) = true :=
        Tokens.OpensPath.seesPlainStep step _ _
      rw [plainSteps, bind_of_ok word, bind_of_ok (ahead_eq _)]
      simp only [goesOn, if_true]
      rw [bind_of_ok taken, bind_of_ok (ahead_eq _)]
      simp only [opens, if_true]
      rw [bind_of_ok (ih _ (Nat.lt_of_succ_lt_succ room))]
      rfl

/-- It is read as itself also where a path may have no arguments. -/
theorem plainPath_of_plain {path : Path} (plain : path.Plain) {behind : Tokens}
    (ended : behind.sees "::" = false) :
    plainPath ⟨path.tokens ++ behind, group, close, left⟩ =
      .ok (path, ⟨behind, group, close, left⟩) := by
  obtain ⟨separator, name, steps, rfl, step, plain, leading⟩ := separator_of_plain plain behind
  have opens : seesPlainStep (name.token :: (PathSegment.listed steps ++ behind)) = true :=
    Tokens.OpensPath.seesPlainStep step _ _
  have room : steps.length <
      Tokens.size (name.token :: (PathSegment.listed steps ++ behind)) := by
    have word : name.token.size = 1 := rfl
    have enough := length_steps_le steps behind
    rw [Tokens.size, word]
    omega
  rw [plainPath, bind_of_ok (leading group close left), bind_of_ok (ahead_eq _)]
  simp only [opens, if_true]
  rw [bind_of_ok (plainSteps_of_steps plain separator ended room)]
  rfl

/-! ### Plain paths as expressions -/

/-- Behind the first token of a plain path is the rest of it, or what follows it. -/
theorem sees_second_of_plain {path : Path} (plain : path.Plain) {behind : Tokens} (text : String)
    {c : Char} {cs : List Char} (chars : text.toList = c :: cs) (other : c ≠ ':')
    (missing : behind.sees text = false) :
    (Tokens.second (path.tokens ++ behind)).sees text = false := by
  cases plain with
  | here step steps =>
      cases steps with
      | nil => exact missing
      | cons => simp [Path.tokens, PathSegment.tokens, Ident.token, Tokens.second, Tokens.sees,
          chars, Tokens.seesChars, other.symm]
  | root steps =>
      cases steps with
      | cons => simp [Path.tokens, PathSegment.tokens, Tokens.second, Tokens.sees, chars,
          Tokens.seesChars, other.symm]

/-- An atom that begins with a plain path is the path, or what it turns out to name. -/
theorem atomRule_of_plain {path : Path} (plain : path.Plain) {behind : Tokens}
    (ended : behind.sees "::" = false) (unmarked : behind.sees "#" = false) (structs : Bool) :
    atomRule g structs ⟨path.tokens ++ behind, group, close, left⟩ =
      named g structs path ⟨behind, group, close, left⟩ := by
  have opens := plain.opensPath behind
  have word := opens.seesWord
  have closure : seesClosure (path.tokens ++ behind) = false := by
    simp [seesClosure, seesBinder, opens.sees "|" rfl (by decide),
      word "move" (by decide), word "for" (by decide),
      word "const" (by decide), word "static" (by decide),
      word "async" (by decide)]
  have begins : seesExprPath (path.tokens ++ behind) = true := by
    simp [seesExprPath, opens.seesPath]
  have untouched : untouched? g ⟨path.tokens ++ behind, group, close, left⟩ =
      .ok (none, ⟨path.tokens ++ behind, group, close, left⟩) := by
    unfold untouched?
    rw [bind_of_ok (ahead_eq _)]
    simp only [word "become" (by decide),
      sees_second_of_plain plain "#" rfl (by decide) unmarked, Bool.and_false,
      Bool.false_eq_true, if_false]
    rfl
  unfold atomRule
  rw [bind_of_ok (ahead_eq _)]
  simp only [opens.seesInvisible, opens.seesLiteral, seesAsyncBlock,
    word "async" (by decide), closure, Bool.false_and, Bool.false_eq_true, if_false]
  rw [bind_of_ok untouched]
  simp only [begins, if_true]
  rw [bind_of_ok (anyPath_of_plain g plain ended)]

/-- Without operators, what begins with a plain path is the path with what follows it. -/
theorem unaryRule_of_plain {path : Path} (plain : path.Plain) (behind : Tokens) (structs : Bool) :
    unaryRule g structs ⟨path.tokens ++ behind, group, close, left⟩ =
      attributedAtom g structs (path.tokens ++ behind) []
        ⟨path.tokens ++ behind, group, close, left⟩ := by
  have opens := plain.opensPath behind
  refine unaryRule_of_atom g (.inr ?_)
  simp only [List.forall_mem_cons, List.not_mem_nil, false_imp_iff, implies_true, and_true]
  exact ⟨opens.sees _ rfl (by decide), opens.sees _ rfl (by decide), opens.sees _ rfl (by decide),
    opens.sees _ rfl (by decide), opens.sees _ rfl (by decide)⟩

/-- A plain path that ends an expression is the expression. -/
theorem expr_of_plain {path : Path} (plain : path.Plain) {behind : Tokens} (ends : behind.Ends)
    (structs : Bool) :
    (deepen (deepen g)).expr structs ⟨path.tokens ++ behind, group, close, left⟩ =
      .ok (.path path, ⟨behind, group, close, left⟩) := by
  have ends' : (⟨behind, group, close, left⟩ : Input).rest.Ends := ends
  have atom : atomRule g structs ⟨path.tokens ++ behind, group, close, left⟩ =
      .ok (.path path, ⟨behind, group, close, left⟩) := by
    rw [atomRule_of_plain g plain ends.sees_separator (ends.sees_eq_false "#" rfl (by decide))]
    exact named_of_ends g ends' structs path
  have first : (deepen g).unary structs ⟨path.tokens ++ behind, group, close, left⟩ =
      .ok (.path path, ⟨behind, group, close, left⟩) := by
    change unaryRule g structs _ = _
    rw [unaryRule_of_plain g plain, attributedAtom, bind_of_ok atom,
      bind_of_ok (trail_of_ends g ends' _)]
    rfl
  change exprRule (deepen g) structs _ = _
  rw [exprRule, bind_of_ok first]
  exact climb_of_ends (deepen g) ends' structs .jump _

/-- A plain path alone is an expression. -/
theorem ofInput_expr_of_plain {path : Path} (plain : path.Plain) (group : Delimiter)
    (close : Span) :
    (ofInput path.tokens).expr true ⟨path.tokens, group, close, none⟩ =
      .ok (.path path, ⟨[], group, close, none⟩) := by
  have read : (ofInput path.tokens).expr true ⟨path.tokens ++ [], group, close, none⟩ =
      .ok (.path path, ⟨[], group, close, none⟩) := expr_of_plain _ plain (.inl rfl) true
  rwa [List.append_nil] at read

/-! ### Plain paths at the start of a statement -/

/-- No branch, loop or block begins with a path. -/
theorem control?_of_opensPath {tokens : Tokens} (opens : tokens.OpensPath) :
    control? g ⟨tokens, group, close, left⟩ = .ok (none, ⟨tokens, group, close, left⟩) := by
  have word := opens.seesWord
  unfold control?
  rw [bind_of_ok (ahead_eq _)]
  simp only [word "if" (by decide), word "while" (by decide),
    word "for" (by decide), word "loop" (by decide),
    word "match" (by decide), word "try" (by decide),
    word "unsafe" (by decide), word "const" (by decide), opens.seesGroup,
    Bool.false_and, Bool.false_eq_true, if_false]
  rfl

/-- The second token of a path of several steps is part of a separator, or the first is. -/
theorem second_of_several {path : Path} (plain : path.Plain)
    (several : 1 < path.segments.length) (behind : Tokens) :
    Tokens.word? (Tokens.second (path.tokens ++ behind)) = none ∧
      (Tokens.seesWord "crate" (path.tokens ++ behind) &&
        !Tokens.sees "::" (Tokens.second (path.tokens ++ behind))) = false := by
  cases plain with
  | here step steps =>
      cases steps with
      | nil => simp at several
      | cons => simp [Path.tokens, PathSegment.tokens, Ident.token, Tokens.second, Tokens.sees,
          Tokens.seesChars, Tokens.word?]
  | root steps =>
      cases steps with
      | cons => simp [Path.tokens, PathSegment.tokens, Tokens.second, Tokens.seesWord,
          Tokens.word?]

/-- No item begins with a path of several steps. -/
theorem seesItem_of_plain {path : Path} (plain : path.Plain)
    (several : 1 < path.segments.length) (behind : Tokens) :
    seesItem (path.tokens ++ behind) = false := by
  have opens := plain.opensPath behind
  have word := opens.seesWord
  obtain ⟨next, crate⟩ := second_of_several plain several behind
  have items : Tokens.seesWords ["pub", "extern", "use", "fn", "mod", "type", "struct", "enum",
      "trait", "impl", "macro"] (path.tokens ++ behind) = false := opens.seesWords (by decide)
  have name : Tokens.seesName (Tokens.second (path.tokens ++ behind)) = false := by
    simp [Tokens.seesName, next]
  have nextWord (text : String) :
      Tokens.seesWord text (Tokens.second (path.tokens ++ behind)) = false := by
    simp [Tokens.seesWord, next]
  have nextWords (texts : List String) :
      Tokens.seesWords texts (Tokens.second (path.tokens ++ behind)) = false := by
    simp [Tokens.seesWords, nextWord]
  simp only [seesItem, items, crate, word "static" (by decide),
    word "const" (by decide), word "unsafe" (by decide),
    word "async" (by decide), name, nextWord, nextWords, Bool.false_and, Bool.and_false,
    Bool.or_false]

/-- A plain path in front of a statement is no macro call unless an exclamation mark follows. -/
theorem opening_of_plain {path : Path} (plain : path.Plain) {behind : Tokens}
    (ended : behind.sees "::" = false) (silent : behind.sees "!" = false) :
    opening ⟨path.tokens ++ behind, group, close, left⟩ =
      .ok (.other, ⟨path.tokens ++ behind, group, close, left⟩) := by
  have found : succeeds plainPath ⟨path.tokens ++ behind, group, close, left⟩ =
      .ok (some (path, behind), ⟨path.tokens ++ behind, group, close, left⟩) := by
    rw [TokenReader.succeeds, plainPath_of_plain plain ended]
  rw [opening, bind_of_ok found]
  simp only [silent, Bool.false_eq_true, if_false]
  rfl

/-! ### Names as patterns -/

/-- A name is bound as it is, without a pattern of its own behind it. -/
theorem namePattern_of_name (g : Grammar) {text : String} (free : Identifier.isName text = true)
    (span : Span) {behind : Tokens} (whole : behind.sees "@" = false) (group : Delimiter)
    (close : Span) :
    namePattern g ⟨.ident text span :: behind, group, close, none⟩ =
      .ok ([.ident text span], ⟨behind, group, close, none⟩) := by
  have front : (Input.mk (.ident text span :: behind) group close none).rest.expose =
      .ident text span :: behind := Tokens.expose_ident text span behind
  have word := seesWord_of_name front free
  rw [namePattern, keyword?, bind_of_ok (ifAhead_of_false (word "ref" (by decide))), keyword?,
    bind_of_ok (ifAhead_of_false (word "mut" (by decide))), bind_of_ok (ahead_eq _)]
  simp only [word "self" (by decide), Bool.false_eq_true, if_false]
  rw [TokenReader.name, bind_of_ok (bind_of_ok (ident_of_name front free)),
    bind_of_ok (ifAhead_of_false whole)]
  rfl

/-- A name is a pattern that binds it, unless what is behind it goes on. -/
theorem singleRule_of_name (g : Grammar) {text : String} (free : Identifier.isName text = true)
    (span : Span) {behind : Tokens}
    (stops : (behind.sees "::" || behind.sees "!" || behind.seesGroup .brace ||
      behind.seesGroup .parenthesis || behind.sees "..") = false)
    (whole : behind.sees "@" = false) (group : Delimiter) (close : Span) :
    singleRule g ⟨.ident text span :: behind, group, close, none⟩ =
      .ok (.plain [.ident text span], ⟨behind, group, close, none⟩) := by
  have front : (Input.mk (.ident text span :: behind) group close none).rest.expose =
      .ident text span :: behind := Tokens.expose_ident text span behind
  have word := seesWord_of_name front free
  have sees (mark : String) {c : Char} {cs : List Char} (chars : mark.toList = c :: cs) :=
    sees_of_ident front mark chars
  have reserved : Tokens.seesWords ["Self", "super", "crate"] (.ident text span :: behind) =
      false := by
    simp [Tokens.seesWords, word "Self" (by decide), word "super" (by decide),
      word "crate" (by decide)]
  have name : Tokens.seesName (.ident text span :: behind) = true := by
    simp [Tokens.seesName, Tokens.word?, free]
  have literal : Tokens.seesLiteral (.ident text span :: behind) = false := by
    have truth := word "true" (by decide)
    have falsity := word "false" (by decide)
    simp only [Tokens.seesWord, Tokens.word?, front] at truth falsity
    simp_all [Tokens.seesLiteral]
  have bound : seesPathPattern (.ident text span :: behind) = false := by
    have next : Tokens.second (.ident text span :: behind) = behind := rfl
    simp only [seesPathPattern, next, stops, word "self" (by decide), sees "::" rfl,
      sees "<" rfl, reserved, Bool.and_false, Bool.false_and, Bool.or_false]
  rw [singleRule, bind_of_ok (ahead_eq _)]
  simp only [bound, word "_" (by decide), word "box" (by decide), word "const" (by decide), literal,
    sees "-" rfl, name, Bool.false_or, Bool.true_or, Bool.false_eq_true, if_false,
    if_true]
  rw [bind_of_ok (namePattern_of_name g free span whole group close)]
  rfl

/-- A step of a path alone is a pattern: a name to bind, or a path. -/
theorem singleRule_of_step (g : Grammar) {name : Ident} (step : IsStep name.text)
    (group : Delimiter) (close : Span) :
    singleRule g ⟨[name.token], group, close, none⟩ =
      .ok (.plain [name.token], ⟨[], group, close, none⟩) := by
  obtain ⟨text, span⟩ := name
  obtain free | place := step
  · exact singleRule_of_name g free span rfl rfl group close
  · simp only [List.mem_cons, List.not_mem_nil, or_false] at place
    obtain rfl | rfl | rfl | rfl := place <;> rfl

theorem patternList_of_step (g : Grammar) {name : Ident} (step : IsStep name.text) :
    patternList (deepen (deepen g)) (within [name.token]) = .ok ([name.token], within []) := by
  have pattern : (deepen (deepen g)).pattern (within [name.token]) =
      .ok (.plain [name.token], within []) := by
    have bare : operator? "|" (within [name.token]) = .ok ([], within [name.token]) := rfl
    have single : (deepen g).single (within [name.token]) = .ok (.plain [name.token], within []) :=
      singleRule_of_step g step .parenthesis .callSite
    change patternRule (deepen g) (within [name.token]) = _
    rw [patternRule, bind_of_ok bare, bind_of_ok single]
    rfl
  have some : ¬ ended (within [name.token]).rest = true := Bool.false_ne_true
  rw [patternList, separated, separatedBy, bind_of_ok (ahead_eq _), separatedBy.go,
    bind_of_ok (ahead_eq _), if_neg some, bind_of_ok (bind_of_ok pattern)]
  rfl

end Grammar

end MacroExpansion
