import Mathlib.Data.List.Find
import MacroExpansion.Proofs.Reading.Boundary

/-!
# Questions with more tokens behind

A comma or an arrow behind some tokens answers no question about them, as long as it does not run
together with the last of them: then `Tokens.Apart` holds. Where a token is left, its front is the
same with more behind it. Where none is left, the answer is that nothing that belongs to an
expression follows, at the end of the tokens as well as at a comma or an arrow.
-/

namespace MacroExpansion

namespace Tokens

/-- Is the last token that is seen punctuation that is joint to what follows? -/
def endsJoint (tokens : Tokens) : Bool := tokens.visible.getLast?.any Token.isJoint

/-- A comma or an arrow is in front. -/
inductive Marked : Tokens → Prop
  | comma (spacing : Spacing) (span : Span) (rest : Tokens) :
      Marked (.punct ',' spacing span :: rest)
  | arrow (first : Span) (spacing : Spacing) (span : Span) (rest : Tokens) :
      Marked (.punct '=' .joint first :: .punct '>' spacing span :: rest)

/-- Nothing is behind the tokens, or a mark that does not run together with them. A comma never
does. -/
inductive Apart (front : Tokens) : Tokens → Prop
  | nothing : Apart front []
  | mark {tail : Tokens} (marked : tail.Marked)
      (loose : tail.sees "," = true ∨ front.endsJoint = false) : Apart front tail

theorem Ends.congr {tokens others : Tokens} (same : tokens.expose = others.expose)
    (ends : tokens.Ends) : others.Ends := by
  unfold Ends seesColon at ends ⊢
  rwa [← same, ← sees_congr same, ← sees_congr same, ← sees_congr same, ← sees_congr same]

theorem Marked.ends {tokens : Tokens} (marked : tokens.Marked) : tokens.Ends := by
  cases marked with
  | comma => exact .inr (.inl (by simp [sees, seesChars]))
  | arrow => exact .inr (.inr (.inl (by simp [sees, seesChars])))

/-- What follows the first token ends the tokens. -/
theorem visible_second_suffix (tokens : Tokens) : tokens.second.visible <:+ tokens.visible := by
  unfold second
  split
  · rename_i place name span rest front
    rw [visible_of_expose front, visible_cons]
    exact (List.suffix_append _ _).trans (List.suffix_cons _ _)
  · rename_i token rest other front
    rw [visible_of_expose front]
    exact List.suffix_cons _ _
  · simp

/-- With nothing behind the first token there are at most the two tokens of a lifetime. -/
theorem length_visible_of_second {tokens : Tokens} (none : tokens.second.expose = []) :
    tokens.visible.length ≤ 2 := by
  unfold second at none
  split at none
  · rename_i place name span rest front
    rw [visible_of_expose front, visible_cons, expose_eq_nil_iff.mp none]
    exact Nat.le_refl 2
  · rename_i token rest other front
    rw [visible_of_expose front, expose_eq_nil_iff.mp none]
    exact Nat.le_succ 1
  · rename_i front
    rw [expose_eq_nil_iff.mp front]
    exact Nat.zero_le 2

/-- The word at the front is the first token. -/
theorem front_of_word? {tokens : Tokens} {text : String} (word : tokens.word? = some text) :
    ∃ span rest, tokens.expose = .ident text span :: rest := by
  unfold word? at word
  split at word
  · cases word
    exact ⟨_, _, ‹_›⟩
  · cases word

/-- Does the operator hold no comma behind its first character? This is true of all. -/
def isWhole (text : String) : Bool := !text.toList.tail.contains ','

/-- Does the operator begin with neither a comma nor an equals sign? -/
def isUnmarked (text : String) : Bool :=
  isWhole text && text.toList.head?.any fun c => c != ',' && c != '='

namespace Apart

variable {front tail : Tokens}

/-- What is behind stays apart from the end of the tokens. -/
theorem of_suffix {rest : Tokens} (apart : front.Apart tail)
    (suffix : rest.visible <:+ front.visible) : rest.Apart tail := by
  cases apart with
  | nothing => exact .nothing
  | mark marked loose =>
      refine .mark marked (loose.imp_right fun loose => ?_)
      obtain ⟨taken, split⟩ := suffix
      cases last : rest.visible.getLast? with
      | none => simp [endsJoint, last]
      | some token =>
          have same : front.visible.getLast? = some token := by
            rw [← split, List.getLast?_append, last]
            rfl
          rw [endsJoint, same] at loose
          rw [endsJoint, last, loose]

theorem second (apart : front.Apart tail) : front.second.Apart tail :=
  apart.of_suffix (visible_second_suffix front)

theorem third (apart : front.Apart tail) : front.third.Apart tail := apart.second.second

/-- The same token is in front, or an expression ends with and without what is behind. -/
theorem view (apart : front.Apart tail) :
    (front.expose = [] ∧ (front ++ tail).Ends) ∨
      ∃ (token : Token) (rest : Tokens), front.expose = token :: rest ∧ rest.Apart tail ∧
        (front ++ tail).expose = token :: (rest ++ tail) := by
  cases next : front.expose with
  | nil =>
      refine .inl ⟨rfl, ?_⟩
      cases apart with
      | nothing => exact .inl (by rw [List.append_nil, next])
      | mark marked loose => exact marked.ends.congr (expose_append_of_nil next tail).symm
  | cons token rest =>
      refine .inr ⟨token, rest, rfl, apart.of_suffix ?_, expose_append_of_cons next tail⟩
      rw [visible_of_expose next]
      exact List.suffix_cons _ _

/-! ### The front -/

theorem word? (apart : front.Apart tail) : (front ++ tail).word? = front.word? := by
  obtain ⟨none, ends⟩ | ⟨token, rest, next, -, next'⟩ := apart.view
  · rw [ends.word?]
    simp [Tokens.word?, none]
  · simp only [Tokens.word?, next, next']
    cases token <;> rfl

theorem seesWord (apart : front.Apart tail) (word : String) :
    (front ++ tail).seesWord word = front.seesWord word := by
  rw [Tokens.seesWord, Tokens.seesWord, apart.word?]

theorem seesWords (apart : front.Apart tail) (words : List String) :
    (front ++ tail).seesWords words = front.seesWords words := by
  simp only [Tokens.seesWords, apart.seesWord]

theorem seesName (apart : front.Apart tail) : (front ++ tail).seesName = front.seesName := by
  rw [Tokens.seesName, Tokens.seesName, apart.word?]

theorem seesGroup (apart : front.Apart tail) (delimiter : Delimiter) :
    (front ++ tail).seesGroup delimiter = front.seesGroup delimiter := by
  obtain ⟨none, ends⟩ | ⟨token, rest, next, -, next'⟩ := apart.view
  · rw [ends.seesGroup]
    simp [Tokens.seesGroup, none]
  · simp only [Tokens.seesGroup, next, next']
    cases token <;> rfl

theorem seesLiteral (apart : front.Apart tail) :
    (front ++ tail).seesLiteral = front.seesLiteral := by
  obtain ⟨none, ends⟩ | ⟨token, rest, next, -, next'⟩ := apart.view
  · obtain none' | ⟨c, spacing, span, rest, mark, -⟩ := ends.front <;>
      simp [Tokens.seesLiteral, *]
  · simp only [Tokens.seesLiteral, next, next']
    cases token <;> rfl

theorem seesInteger (apart : front.Apart tail) :
    (front ++ tail).seesInteger = front.seesInteger := by
  obtain ⟨none, ends⟩ | ⟨token, rest, next, -, next'⟩ := apart.view
  · obtain none' | ⟨c, spacing, span, rest, mark, -⟩ := ends.front <;>
      simp [Tokens.seesInteger, *]
  · simp only [Tokens.seesInteger, next, next']
    cases token <;> rfl

theorem seesFloat (apart : front.Apart tail) : (front ++ tail).seesFloat = front.seesFloat := by
  obtain ⟨none, ends⟩ | ⟨token, rest, next, -, next'⟩ := apart.view
  · obtain none' | ⟨c, spacing, span, rest, mark, -⟩ := ends.front <;>
      simp [Tokens.seesFloat, *]
  · simp only [Tokens.seesFloat, next, next']
    cases token <;> rfl

theorem seesString (apart : front.Apart tail) :
    (front ++ tail).seesString = front.seesString := by
  obtain ⟨none, ends⟩ | ⟨token, rest, next, -, next'⟩ := apart.view
  · obtain none' | ⟨c, spacing, span, rest, mark, -⟩ := ends.front <;>
      simp [Tokens.seesString, *]
  · simp only [Tokens.seesString, next, next']
    cases token <;> rfl

theorem seesInvisible (apart : front.Apart tail) :
    (front ++ tail).seesInvisible = front.seesInvisible := by
  cases front with
  | cons token front =>
      rw [List.cons_append, Tokens.seesInvisible.eq_def, Tokens.seesInvisible.eq_def]
      split <;> simp_all
  | nil =>
      cases apart with
      | nothing => rfl
      | mark marked => cases marked <;> rfl

/-- A lifetime is not completed by a mark. -/
theorem seesLifetime (apart : front.Apart tail) :
    (front ++ tail).seesLifetime = front.seesLifetime := by
  obtain ⟨none, ends⟩ | ⟨token, rest, next, behind, next'⟩ := apart.view
  · obtain none' | ⟨c, spacing, span, rest, mark, rfl | rfl | rfl⟩ := ends.front <;>
      simp [Tokens.seesLifetime, *]
  · simp only [Tokens.seesLifetime, next, next']
    cases rest with
    | cons second rest => rw [List.cons_append]; split <;> simp_all
    | nil =>
        cases behind with
        | nothing => rfl
        | mark marked => cases marked <;> simp

/-! ### Operators -/

/-- A mark does not go on an operator of which the last character was seen. -/
theorem seesChars_of_joint (apart : front.Apart tail) (joint : front.endsJoint = true)
    {rest : Tokens} (none : rest.expose = []) {chars : List Char} (whole : ',' ∉ chars) :
    Tokens.seesChars chars (rest ++ tail) = Tokens.seesChars chars rest := by
  cases chars with
  | nil => rw [Tokens.seesChars, Tokens.seesChars]
  | cons c cs =>
      rw [Tokens.seesChars, Tokens.seesChars, expose_append_of_nil none, none]
      cases apart with
      | nothing => rfl
      | mark marked loose =>
          cases marked with
          | comma =>
              have other : ',' ≠ c := by
                rintro rfl
                exact whole List.mem_cons_self
              simp [other]
          | arrow => simp [Tokens.sees, Tokens.seesChars, joint] at loose

/-- No character of a mark completes an operator. -/
theorem seesChars (apart : front.Apart tail) (seen : front.expose ≠ []) {chars : List Char}
    (whole : ',' ∉ chars.tail) :
    Tokens.seesChars chars (front ++ tail) = Tokens.seesChars chars front := by
  induction chars generalizing front with
  | nil => rw [Tokens.seesChars, Tokens.seesChars]
  | cons c cs ih =>
      obtain ⟨none, -⟩ | ⟨token, rest, next, behind, next'⟩ := apart.view
      · exact absurd none seen
      · rw [Tokens.seesChars, Tokens.seesChars, next, next']
        cases token with
        | punct d spacing span =>
            cases spacing with
            | alone => rfl
            | joint =>
                dsimp only
                by_cases none : rest.expose = []
                · have joint : front.endsJoint = true := by
                    simp [endsJoint, visible_of_expose next, expose_eq_nil_iff.mp none,
                      Token.isJoint]
                  rw [apart.seesChars_of_joint joint none (show ',' ∉ cs from whole)]
                · rw [ih behind none fun among => whole (List.mem_of_mem_tail among)]
        | _ => rfl

theorem sees_of_seen (apart : front.Apart tail) (seen : front.expose ≠ []) {text : String}
    (whole : isWhole text = true) : (front ++ tail).sees text = front.sees text :=
  apart.seesChars seen (by simpa [isWhole] using whole)

theorem seesAny_of_seen (apart : front.Apart tail) (seen : front.expose ≠ [])
    {texts : List String} (whole : texts.all isWhole = true) :
    (front ++ tail).seesAny texts = front.seesAny texts := by
  unfold seesAny
  rw [Bool.eq_iff_iff, List.any_eq_true, List.any_eq_true]
  refine exists_congr fun text => and_congr_right fun among => ?_
  rw [apart.sees_of_seen seen (List.all_eq_true.mp whole text among)]

theorem isEmpty_of_seen (_ : front.Apart tail) (seen : front.expose ≠ []) :
    (front ++ tail).isEmpty = front.isEmpty := by
  cases front with
  | nil => exact absurd rfl seen
  | cons token front => rfl

/-- Where nothing is left, no operator is seen but those that begin like a mark. -/
theorem sees_eq_false (apart : front.Apart tail) (none : front.expose = []) {text : String}
    (unmarked : isUnmarked text = true) : (front ++ tail).sees text = false := by
  obtain ⟨-, begins⟩ := Bool.and_eq_true_iff.mp unmarked
  obtain ⟨c, first, other⟩ := Option.any_eq_true _ _ |>.mp begins
  obtain ⟨cs, chars⟩ : ∃ cs, text.toList = c :: cs := List.head?_eq_some_iff.mp first
  rw [sees_congr (expose_append_of_nil none tail), sees, chars, Tokens.seesChars]
  cases apart with
  | nothing => rfl
  | mark marked =>
      simp only [Bool.and_eq_true, bne_iff_ne] at other
      cases marked <;> simp [other.1.symm, other.2.symm]

theorem sees (apart : front.Apart tail) {text : String} (unmarked : isUnmarked text = true) :
    (front ++ tail).sees text = front.sees text := by
  by_cases none : front.expose = []
  · rw [apart.sees_eq_false none unmarked]
    have alone := Apart.sees_eq_false (.nothing : front.Apart []) none unmarked
    rw [List.append_nil] at alone
    exact alone.symm
  · exact apart.sees_of_seen none (Bool.and_eq_true_iff.mp unmarked).1

theorem seesDot (apart : front.Apart tail) : (front ++ tail).seesDot = front.seesDot := by
  simp (disch := decide) only [Tokens.seesDot, apart.sees]

theorem seesColon (apart : front.Apart tail) : (front ++ tail).seesColon = front.seesColon := by
  simp (disch := decide) only [Tokens.seesColon, apart.sees]

/-! ### Further tokens -/

theorem second_eq (apart : front.Apart tail) (seen : front.expose ≠ []) :
    (front ++ tail).second = front.second ++ tail := by
  obtain ⟨none, -⟩ | ⟨token, rest, next, behind, next'⟩ := apart.view
  · exact absurd none seen
  · simp only [Tokens.second, next, next']
    cases rest with
    | cons second rest =>
        rw [List.cons_append]
        split
        · simp_all
        · rename_i seen other same
          cases same
          split
          · simp_all
          · rename_i same
            cases same
            rfl
          · simp_all
        · simp_all
    | nil =>
        cases behind with
        | nothing => simp
        | mark marked => cases marked <;> simp

/-- Behind the separator of a path there is a third token to look at. -/
theorem third_eq (apart : front.Apart tail) (seen : front.sees "::" = true) :
    (front ++ tail).third = front.third ++ tail := by
  obtain ⟨spacing, span, rest, next⟩ := front_of_sees (c := ':') rfl seen
  have second : front.second = rest := by simp [Tokens.second, next]
  have more : front.second.expose ≠ [] := by
    rw [second]
    intro none
    simp [Tokens.sees, Tokens.seesChars, next, none] at seen
  rw [Tokens.third, apart.second_eq (by simp [next]), apart.second.second_eq more]
  rfl

theorem seesSignedLiteral (apart : front.Apart tail) :
    (front ++ tail).seesSignedLiteral = front.seesSignedLiteral := by
  unfold Tokens.seesSignedLiteral
  rw [apart.seesLiteral, apart.sees (by decide)]
  by_cases minus : front.sees "-" = true
  · obtain ⟨spacing, span, rest, next⟩ := front_of_sees (c := '-') rfl minus
    rw [apart.second_eq (by simp [next])]
    obtain ⟨none, ends⟩ | ⟨token, rest, next, -, next'⟩ := apart.second.view
    · obtain none' | ⟨c, spacing, span, rest, mark, -⟩ := ends.front <;> simp [*]
    · rw [next, next']
      cases token <;> rfl
  · simp [minus]

end Apart

end Tokens

open Tokens

/-! ### Questions of the grammar -/

namespace Grammar

variable {front tail : Tokens}

theorem seesConstant_append (apart : front.Apart tail) :
    seesConstant (front ++ tail) = seesConstant front := by
  rw [seesConstant, seesConstant, apart.seesSignedLiteral, apart.seesGroup]

theorem seesPath_append (apart : front.Apart tail) :
    seesPath (front ++ tail) = seesPath front := by
  simp (disch := decide) only [seesPath, apart.seesName, apart.seesWords, apart.sees]

theorem seesBound_append (apart : front.Apart tail) :
    seesBound (front ++ tail) = seesBound front := by
  simp (disch := decide) only [seesBound, apart.word?, apart.sees, apart.seesLifetime,
    apart.seesGroup]

theorem seesAlternative_append (apart : front.Apart tail) :
    seesAlternative (front ++ tail) = seesAlternative front := by
  simp (disch := decide) only [seesAlternative, apart.sees]

theorem seesExpr_append (apart : front.Apart tail) :
    seesExpr (front ++ tail) = seesExpr front := by
  simp (disch := decide) only [seesExpr, apart.word?, apart.sees, apart.seesLifetime,
    apart.seesGroup, apart.seesSignedLiteral]

theorem binaryOperator?_append (apart : front.Apart tail) :
    binaryOperator? (front ++ tail) = binaryOperator? front := by
  by_cases none : front.expose = []
  · have ends : front.Ends := .inl none
    obtain ⟨-, ends'⟩ | ⟨token, rest, next, -⟩ := apart.view
    · rw [ends.binaryOperator?, ends'.binaryOperator?]
    · rw [none] at next
      cases next
  · have whole : ∀ entry ∈ binaryOperators, isWhole entry.1 = true := by decide
    unfold binaryOperator?
    refine List.find?_congr fun entry among => ?_
    rw [apart.sees_of_seen none (whole entry among)]

theorem seesAssign_append (apart : front.Apart tail) :
    seesAssign (front ++ tail) = seesAssign front := by
  by_cases none : front.expose = []
  · have ends : front.Ends := .inl none
    obtain ⟨-, ends'⟩ | ⟨token, rest, next, -⟩ := apart.view
    · rw [ends.seesAssign, ends'.seesAssign]
    · rw [none] at next
      cases next
  · rw [seesAssign, seesAssign, apart.sees_of_seen none (by decide),
      apart.sees_of_seen none (by decide)]

theorem nextPrecedence_append (apart : front.Apart tail) :
    nextPrecedence (front ++ tail) = nextPrecedence front := by
  simp (disch := decide) only [nextPrecedence, binaryOperator?_append apart,
    seesAssign_append apart, apart.sees, apart.seesWord]

/-- A question about the tokens behind the separator of a path. -/
theorem behindSeparator_append (apart : front.Apart tail) (question : Tokens → Bool)
    (same : question (front.third ++ tail) = question front.third) :
    ((front ++ tail).sees "::" && question (front ++ tail).third) =
      (front.sees "::" && question front.third) := by
  rw [apart.sees (by decide)]
  by_cases seen : front.sees "::" = true
  · rw [apart.third_eq seen, same]
  · simp [seen]

theorem pathGoesOn_append (apart : front.Apart tail) :
    pathGoesOn (front ++ tail) = pathGoesOn front :=
  behindSeparator_append apart (fun tokens => !tokens.seesGroup .parenthesis)
    (by rw [apart.third.seesGroup])

theorem seesCall_append (apart : front.Apart tail) (path : Path) :
    seesCall path (front ++ tail) = seesCall path front := by
  rw [seesCall, seesCall, apart.seesGroup,
    behindSeparator_append apart (·.seesGroup .parenthesis) (apart.third.seesGroup _)]

/-- A question about the first token and one about those behind it. -/
theorem behindFirst_append (apart : front.Apart tail) (first question : Tokens → Bool)
    (sameFirst : first (front ++ tail) = first front)
    (nothing : front.expose = [] → first front = false)
    (same : question (front.second ++ tail) = question front.second) :
    (first (front ++ tail) && question (front ++ tail).second) =
      (first front && question front.second) := by
  rw [sameFirst]
  by_cases none : front.expose = []
  · rw [nothing none, Bool.false_and, Bool.false_and]
  · rw [apart.second_eq none, same]

theorem behindWord_append (apart : front.Apart tail) (word : String) (question : Tokens → Bool)
    (same : question (front.second ++ tail) = question front.second) :
    ((front ++ tail).seesWord word && question (front ++ tail).second) =
      (front.seesWord word && question front.second) :=
  behindFirst_append apart _ question (apart.seesWord word)
    (fun none => by simp [Tokens.seesWord, Tokens.word?, none]) same

theorem behindName_append (apart : front.Apart tail) (question : Tokens → Bool)
    (same : question (front.second ++ tail) = question front.second) :
    ((front ++ tail).seesName && question (front ++ tail).second) =
      (front.seesName && question front.second) :=
  behindFirst_append apart _ question apart.seesName
    (fun none => by simp [Tokens.seesName, Tokens.word?, none]) same

theorem behindLifetime_append (apart : front.Apart tail) (question : Tokens → Bool)
    (same : question (front.second ++ tail) = question front.second) :
    ((front ++ tail).seesLifetime && question (front ++ tail).second) =
      (front.seesLifetime && question front.second) :=
  behindFirst_append apart _ question apart.seesLifetime
    (fun none => by simp [Tokens.seesLifetime, none]) same

theorem behindMinus_append (apart : front.Apart tail) (question : Tokens → Bool)
    (same : question (front.second ++ tail) = question front.second) :
    ((front ++ tail).sees "-" && question (front ++ tail).second) =
      (front.sees "-" && question front.second) :=
  behindFirst_append apart _ question (apart.sees (by decide))
    (fun none => by simp [Tokens.sees, Tokens.seesChars, none]) same

theorem seesAsyncBlock_append (apart : front.Apart tail) :
    seesAsyncBlock (front ++ tail) = seesAsyncBlock front :=
  behindWord_append apart "async"
    (fun next => next.seesGroup .brace || (next.seesWord "move" && next.second.seesGroup .brace))
    (by rw [apart.second.seesGroup,
      behindWord_append apart.second _ (·.seesGroup .brace) (apart.third.seesGroup _)])

theorem seesExprPath_append (apart : front.Apart tail) :
    seesExprPath (front ++ tail) = seesExprPath front := by
  rw [seesExprPath, seesExprPath, seesPath_append apart,
    behindWord_append apart _ (fun next => next.sees "!" || next.sees "::") (by
      rw [apart.second.sees (by decide), apart.second.sees (by decide)])]

theorem seesPathPattern_append (apart : front.Apart tail) :
    seesPathPattern (front ++ tail) = seesPathPattern front := by
  have path : ∀ word, ((front ++ tail).seesWord word && (front ++ tail).second.sees "::") =
      (front.seesWord word && front.second.sees "::") := fun word =>
    behindWord_append apart word (·.sees "::") (apart.second.sees (by decide))
  simp (disch := decide) only [seesPathPattern, path, apart.seesWords, apart.sees]
  rw [behindName_append apart (fun next => next.sees "::" || next.sees "!" ||
    next.seesGroup .brace || next.seesGroup .parenthesis || next.sees "..")]
  simp (disch := decide) only [apart.second.sees, apart.second.seesGroup]

theorem afterCast?_append (apart : front.Apart tail) :
    afterCast? (front ++ tail) = afterCast? front := by
  have method := behindName_append apart.second
    (fun next => next.seesGroup .parenthesis || next.sees "::")
    (by rw [apart.second.second.seesGroup, apart.second.second.sees (by decide)])
  unfold afterCast?
  rw [apart.seesDot, apart.sees (by decide), apart.seesGroup, apart.seesGroup]
  split
  · rename_i seen
    obtain ⟨spacing, span, rest, next⟩ :=
      front_of_sees (c := '.') rfl (Bool.and_eq_true_iff.mp seen).1
    dsimp only
    rw [apart.second_eq (by simp [next]), apart.second.seesWord, method]
  · rfl

/-- A parameter is told by what follows it, unless nothing does. -/
theorem seesParameters_append (apart : front.Apart tail)
    (other : (front ++ tail).seesParameters ≠ front.seesParameters) :
    front.seesParameters = false ∧ ∃ (spacing : Spacing) (span : Span) (rest : Tokens),
      front.visible = .punct '<' spacing span :: rest ∧ rest.length ≤ 2 := by
  by_cases seen : front.sees "<" = true
  · obtain ⟨spacing, span, rest, next⟩ := front_of_sees (c := '<') rfl seen
    obtain rfl : front.second = rest := by simp [Tokens.second, next]
    have behind := apart.second
    unfold seesParameters third at other ⊢
    simp only [apart.second_eq (by simp [next]), apart.sees (by decide : isUnmarked "<" = true),
      behind.seesWord, behind.sees (by decide : isUnmarked ">" = true),
      behind.sees (by decide : isUnmarked "#" = true), behind.seesLifetime, behind.seesName]
      at other ⊢
    by_cases none : front.second.expose = []
    · simp [Tokens.seesLifetime, Tokens.seesName, Tokens.word?, none] at other
    by_cases none' : front.second.second.expose = []
    · refine ⟨?_, spacing, span, _, visible_of_expose next, length_visible_of_second none'⟩
      rw [Bool.eq_false_iff]
      intro parameters
      rw [parameters] at other
      revert parameters other
      simp +contextual [seesAny, Tokens.seesColon, Tokens.sees, Tokens.seesChars, none']
    · rw [behind.second_eq none, behind.second.seesAny_of_seen none' (by decide),
        behind.second.seesColon] at other
      exact absurd rfl other
  · refine absurd ?_ other
    simp [seesParameters, apart.sees (by decide : isUnmarked "<" = true), seen]

/-- The binder of a closure is told from a loop by what follows its first parameter, unless nothing
does. -/
theorem seesBinder_append (apart : front.Apart tail)
    (other : seesBinder (front ++ tail) ≠ seesBinder front) :
    front.seesWord "for" = true ∧ seesBinder front = false ∧
      ∃ (spacing : Spacing) (span : Span) (rest : Tokens),
        front.second.visible = .punct '<' spacing span :: rest ∧ rest.length ≤ 2 := by
  unfold seesBinder at other ⊢
  rw [apart.seesWord] at other
  by_cases seen : front.seesWord "for" = true
  · have some : front.expose ≠ [] := fun none => by
      simp [Tokens.seesWord, Tokens.word?, none] at seen
    rw [apart.second_eq some, seen, Bool.true_and, Bool.true_and] at other
    rw [seen, Bool.true_and]
    exact ⟨rfl, seesParameters_append apart.second other⟩
  · simp [seen] at other

/-- No other closure is told from what follows its first tokens. -/
theorem seesClosure_append (apart : front.Apart tail)
    (same : seesBinder (front ++ tail) = seesBinder front) :
    seesClosure (front ++ tail) = seesClosure front := by
  unfold seesClosure
  rw [same, behindWord_append apart "const" (fun next => !next.seesGroup .brace)
      (by rw [apart.second.seesGroup]),
    behindWord_append apart "async" (fun next => next.sees "|" || next.seesWord "move")
      (by rw [apart.second.sees (by decide), apart.second.seesWord]),
    apart.sees (by decide), apart.seesWord, apart.seesWord]

/-- Where no token is left, but something is, a mark ends a range that is not open without it. -/
theorem rangeIsOpen_append (apart : front.Apart tail)
    (other : rangeIsOpen (front ++ tail) ≠ rangeIsOpen front) :
    front.expose = [] ∧ rangeIsOpen front = false := by
  by_cases none : front.expose = []
  · refine ⟨none, ?_⟩
    rw [Bool.eq_false_iff]
    intro isOpen
    have empty : front = [] := by
      simpa [rangeIsOpen, seesAny, Tokens.seesColon, Tokens.seesWord, Tokens.word?, Tokens.sees,
        Tokens.seesChars, none] using isOpen
    subst empty
    refine other ?_
    cases apart with
    | nothing => rfl
    | mark marked => cases marked <;> simp [rangeIsOpen, seesAny, Tokens.sees, Tokens.seesChars]
  · refine absurd ?_ other
    rw [rangeIsOpen, rangeIsOpen, apart.isEmpty_of_seen none,
      apart.seesAny_of_seen none (by decide), apart.seesColon, apart.seesWord]

/-- The same for a range in an expression. -/
theorem rangeStops_append (apart : front.Apart tail) {structs : Bool}
    (other : rangeStops structs (front ++ tail) ≠ rangeStops structs front) :
    front.expose = [] ∧ rangeStops structs front = false := by
  by_cases none : front.expose = []
  · refine ⟨none, ?_⟩
    rw [Bool.eq_false_iff]
    intro stops
    have empty : front = [] := by
      simpa [rangeStops, seesAny, Tokens.seesDot, Tokens.seesWord, Tokens.word?, Tokens.sees,
        Tokens.seesChars, Tokens.seesGroup, none] using stops
    subst empty
    refine other ?_
    cases apart with
    | nothing => rfl
    | mark marked => cases marked <;> simp [rangeStops, seesAny, Tokens.sees, Tokens.seesChars]
  · refine absurd ?_ other
    rw [rangeStops, rangeStops, apart.isEmpty_of_seen none, apart.seesAny_of_seen none (by decide),
      apart.seesDot, apart.seesWord, apart.seesGroup]

end Grammar

end MacroExpansion
