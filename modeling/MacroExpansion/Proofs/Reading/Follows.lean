import MacroExpansion.Proofs.Reading.Apart

/-!
# Readers with more tokens behind

A reader that succeeds reads the same with a comma or an arrow behind its tokens, and stops at the
same point. `Follows` says so of two readers, one for the tokens alone and one that meets the tokens
with more behind them; they differ in the grammar they are given. With nothing behind, it says that
the second reader reads whatever the first one does.

Some readers, such as those of what stands in angle brackets, do not see the end of the tokens as
the same as a comma or an arrow. They are followed as long as they leave a token, and the one behind
them, which takes it, makes up for it.

Rounds of a loop are bounded by the number of tokens, so more tokens allow more rounds.
`FollowsWithin` is what is known of a loop after some of its rounds.
-/

namespace MacroExpansion

namespace Input

/-- The same point with more tokens behind. -/
def followedBy (input : Input) (tail : Tokens) : Input := { input with rest := input.rest ++ tail }

@[simp] theorem followedBy_nil (input : Input) : input.followedBy [] = input := by
  simp [followedBy]

@[simp] theorem rest_followedBy (input : Input) (tail : Tokens) :
    (input.followedBy tail).rest = input.rest ++ tail := rfl

end Input

namespace TokenReader

variable {α β : Type} {full : Bool} {tail : Tokens} {limit : Nat}

/-- At one point of the reading, the first reader moves forward, and what it reads the second one
reads with more behind; with `full` unset only if a token is left. -/
def FollowsAt (input : Input) (full : Bool) (tail : Tokens) (reader other : TokenReader α) : Prop :=
  ∀ value after, reader input = .ok (value, after) → input.rest.Apart tail →
    after.rest.visible <:+ input.rest.visible ∧
      ((full = true ∨ after.rest.expose ≠ []) →
        other (input.followedBy tail) = .ok (value, after.followedBy tail))

/-- The same at every point with less than `limit` tokens. -/
def FollowsWithin (limit : Nat) (full : Bool) (tail : Tokens) (reader other : TokenReader α) :
    Prop :=
  ∀ input : Input, input.rest.visible.length < limit → FollowsAt input full tail reader other

/-- The second reader reads what the first one reads, with more tokens behind. -/
class Follows (full : Bool) (tail : Tokens) (reader other : TokenReader α) : Prop where
  follows (input : Input) : FollowsAt input full tail reader other

theorem Follows.within {reader other : TokenReader α} [Follows full tail reader other]
    (limit : Nat) : FollowsWithin limit full tail reader other :=
  fun input _ => follows input

/-- A reader of which it is known that it moves forward. -/
theorem Follows.of_forward {reader other : TokenReader α} [Forward reader]
    (follows : ∀ {input after value}, reader input = .ok (value, after) →
      input.rest.Apart tail → (full = true ∨ after.rest.expose ≠ []) →
        other (input.followedBy tail) = .ok (value, after.followedBy tail)) :
    Follows full tail reader other where
  follows _ _ _ read apart := ⟨(Forward.leads read).rest, follows read apart⟩

/-! ### Ways to put readers together -/

/-- A token that is left was there before. -/
theorem inside_of_suffix {before after : Tokens} (suffix : after.visible <:+ before.visible)
    (inside : full = true ∨ after.expose ≠ []) : full = true ∨ before.expose ≠ [] := by
  refine inside.imp id fun left none => left ?_
  rw [Tokens.expose_eq_nil_iff] at none ⊢
  exact List.suffix_nil.mp (none ▸ suffix)

namespace FollowsAt

variable {input : Input}

theorem bind {first first' : TokenReader α} {next next' : α → TokenReader β}
    (one : FollowsAt input full tail first first')
    (two : ∀ value between, first input = .ok (value, between) →
      between.rest.visible <:+ input.rest.visible →
      FollowsAt between full tail (next value) (next' value)) :
    FollowsAt input full tail (first >>= next) (first' >>= next') := by
  intro value after read apart
  obtain ⟨found, between, read, further⟩ := bind_eq_ok_iff.mp read
  obtain ⟨suffix, again⟩ := one _ _ read apart
  obtain ⟨rest, furtherAgain⟩ :=
    two found between read suffix _ _ further (apart.of_suffix suffix)
  refine ⟨rest.trans suffix, fun inside => ?_⟩
  rw [bind_of_ok (again (inside_of_suffix rest inside))]
  exact furtherAgain inside

theorem ite {condition : Prop} [Decidable condition] {yes no yes' no' : TokenReader α}
    (one : condition → FollowsAt input full tail yes yes')
    (two : ¬condition → FollowsAt input full tail no no') :
    FollowsAt input full tail (if condition then yes else no)
      (if condition then yes' else no') := by
  split
  · exact one ‹_›
  · exact two ‹_›

/-- The readers are chosen by looking ahead, the second with more to look at. -/
theorem ahead {next next' : Tokens → TokenReader α}
    (follows : input.rest.Apart tail →
      FollowsAt input full tail (next input.rest) (next' (input.rest ++ tail))) :
    FollowsAt input full tail (ahead >>= next) (ahead >>= next') := by
  intro value after read apart
  rw [bind_of_ok (ahead_eq input)] at read
  rw [bind_of_ok (ahead_eq _)]
  exact follows apart _ _ read apart

/-- The same for readers of which it is known that they move forward: those that leave a token
find one. -/
theorem ahead_inside {next next' : Tokens → TokenReader α} [∀ here, Forward (next here)]
    (follows : input.rest.Apart tail → (full = true ∨ input.rest.expose ≠ []) →
      FollowsAt input full tail (next input.rest) (next' (input.rest ++ tail))) :
    FollowsAt input full tail (TokenReader.ahead >>= next) (TokenReader.ahead >>= next') := by
  intro value after read apart
  rw [bind_of_ok (ahead_eq input)] at read
  rw [bind_of_ok (ahead_eq _)]
  have suffix := (Forward.leads read).rest
  refine ⟨suffix, fun inside => ?_⟩
  exact (follows apart (inside_of_suffix suffix inside) _ _ read apart).2 inside

/-- Trying finds the same, if the second reader fails where the first one does. -/
theorem succeeds {reader other : TokenReader α}
    (one : FollowsAt input true [] reader other)
    (same : ∀ error, reader input = .error error →
      ∀ value after, other input ≠ .ok (value, after)) :
    FollowsAt input full [] (succeeds reader) (succeeds other) := by
  have again : TokenReader.succeeds other input = TokenReader.succeeds reader input := by
    cases first : reader input with
    | ok result =>
        obtain ⟨value, after⟩ := result
        have second := (one value after first .nothing).2 (.inl rfl)
        rw [Input.followedBy_nil, Input.followedBy_nil] at second
        simp only [TokenReader.succeeds, first, second]
    | error error =>
        cases second : other input with
        | ok result => exact absurd second (same error first _ _)
        | error error => simp only [TokenReader.succeeds, first, second]
  intro value after read _
  obtain ⟨rfl, -⟩ := succeeds_eq_ok read
  refine ⟨List.suffix_rfl, fun _ => ?_⟩
  rw [Input.followedBy_nil, again, read]

end FollowsAt

namespace FollowsWithin

theorem bind {first first' : TokenReader α} {next next' : α → TokenReader β}
    (one : FollowsWithin limit full tail first first')
    (two : ∀ value, FollowsWithin limit full tail (next value) (next' value)) :
    FollowsWithin limit full tail (first >>= next) (first' >>= next') :=
  fun input room => .bind (one input room) fun value between _ suffix =>
    two value between (Nat.lt_of_le_of_lt suffix.length_le room)

/-- Behind a reader that takes a token there are less of them. -/
theorem bind_takes {first first' : TokenReader α} {next next' : α → TokenReader β} [Takes first]
    [Follows full tail first first']
    (two : ∀ value, FollowsWithin limit full tail (next value) (next' value)) :
    FollowsWithin (limit + 1) full tail (first >>= next) (first' >>= next') := by
  intro input room
  refine .bind (Follows.follows input) fun value between read _ => two value between ?_
  have fewer := Takes.takes read
  omega

/-- A reader that takes a token if it finds something. -/
theorem bind_option {first first' : TokenReader (Option α)} {next next' : Option α → TokenReader β}
    [TakesSome first] [Follows full tail first first']
    (found : ∀ value, FollowsWithin limit full tail (next (some value)) (next' (some value)))
    (missing : FollowsWithin (limit + 1) full tail (next none) (next' none)) :
    FollowsWithin (limit + 1) full tail (first >>= next) (first' >>= next') := by
  intro input room
  refine .bind (Follows.follows input) fun value? between read suffix => ?_
  cases value? with
  | none => exact missing between (Nat.lt_of_le_of_lt suffix.length_le room)
  | some value =>
      have fewer := TakesSome.takes read
      exact found value between (by omega)

theorem ite {condition : Prop} [Decidable condition] {yes no yes' no' : TokenReader α}
    (one : FollowsWithin limit full tail yes yes') (two : FollowsWithin limit full tail no no') :
    FollowsWithin limit full tail (if condition then yes else no)
      (if condition then yes' else no') :=
  fun input room => .ite (fun _ => one input room) fun _ => two input room

theorem ahead {next next' : Tokens → TokenReader α}
    (follows : ∀ front : Tokens, front.Apart tail →
      FollowsWithin limit full tail (next front) (next' (front ++ tail))) :
    FollowsWithin limit full tail (ahead >>= next) (ahead >>= next') :=
  fun input room => .ahead fun apart => follows input.rest apart input room

theorem ahead_inside {next next' : Tokens → TokenReader α} [∀ here, Forward (next here)]
    (follows : ∀ front : Tokens, front.Apart tail → (full = true ∨ front.expose ≠ []) →
      FollowsWithin limit full tail (next front) (next' (front ++ tail))) :
    FollowsWithin limit full tail (TokenReader.ahead >>= next) (TokenReader.ahead >>= next') :=
  fun input room => .ahead_inside fun apart inside => follows input.rest apart inside input room

end FollowsWithin

namespace Follows

theorem bind {first first' : TokenReader α} {next next' : α → TokenReader β}
    [one : Follows full tail first first']
    (two : ∀ value, Follows full tail (next value) (next' value)) :
    Follows full tail (first >>= next) (first' >>= next') where
  follows input := .bind (one.follows input) fun value between _ _ => (two value).follows between

instance (first first' : TokenReader α) (next next' : α → TokenReader β)
    [Follows full tail first first'] [two : ∀ value, Follows full tail (next value) (next' value)] :
    Follows full tail (first >>= next) (first' >>= next') := .bind two

/-- A form if it begins here, and another one if not. -/
theorem bind_option {first first' : TokenReader (Option α)} {next next' : Option α → TokenReader β}
    [Follows full tail first first']
    (found : ∀ value, Follows full tail (next (some value)) (next' (some value)))
    (missing : Follows full tail (next none) (next' none)) :
    Follows full tail (first >>= next) (first' >>= next') := by
  refine .bind fun value? => ?_
  cases value? with
  | none => exact missing
  | some value => exact found value

/-- What follows the first reader takes a token, so the first one leaves it. -/
theorem bind_takes {first first' : TokenReader α} {next next' : α → TokenReader β}
    [∀ value, Takes (next value)] [one : Follows false tail first first']
    (two : ∀ value, Follows full tail (next value) (next' value)) :
    Follows full tail (first >>= next) (first' >>= next') where
  follows input := by
    intro value after read apart
    obtain ⟨found, between, read, further⟩ := bind_eq_ok_iff.mp read
    obtain ⟨suffix, again⟩ := one.follows input _ _ read apart
    obtain ⟨rest, furtherAgain⟩ :=
      (two found).follows between _ _ further (apart.of_suffix suffix)
    have left : between.rest.expose ≠ [] := by
      intro none
      have fewer := Takes.takes further
      rw [Tokens.expose_eq_nil_iff.mp none] at fewer
      exact Nat.not_lt_zero _ fewer
    refine ⟨rest.trans suffix, fun inside => ?_⟩
    rw [bind_of_ok (again (.inr left))]
    exact furtherAgain inside

theorem ite {condition : Prop} [Decidable condition] {yes no yes' no' : TokenReader α}
    [one : Follows full tail yes yes'] (two : Follows full tail no no') :
    Follows full tail (if condition then yes else no) (if condition then yes' else no') where
  follows input := .ite (fun _ => one.follows input) fun _ => two.follows input

instance (condition : Prop) [Decidable condition] (yes no yes' no' : TokenReader α)
    [Follows full tail yes yes'] [two : Follows full tail no no'] :
    Follows full tail (if condition then yes else no) (if condition then yes' else no') :=
  .ite two

theorem ahead {next next' : Tokens → TokenReader α}
    (follows : ∀ front : Tokens, front.Apart tail →
      Follows full tail (next front) (next' (front ++ tail))) :
    Follows full tail (ahead >>= next) (ahead >>= next') where
  follows input := .ahead fun apart => (follows input.rest apart).follows input

theorem ahead_inside {next next' : Tokens → TokenReader α} [∀ here, Forward (next here)]
    (follows : ∀ front : Tokens, front.Apart tail → front.expose ≠ [] →
      Follows false tail (next front) (next' (front ++ tail))) :
    Follows false tail (TokenReader.ahead >>= next) (TokenReader.ahead >>= next') where
  follows input := .ahead_inside fun apart inside =>
    (follows input.rest apart (inside.resolve_left Bool.false_ne_true)).follows input

/-- A loop with a state makes at most as many rounds as there are tokens, and each of them takes a
token. -/
theorem loopFrom {σ : Type} {rounds rounds' : σ → Nat → TokenReader α}
    (step : ∀ bound bound',
      (∀ state, FollowsWithin bound full tail (rounds state bound) (rounds' state bound')) →
      ∀ state, FollowsWithin (bound + 1) full tail (rounds state (bound + 1))
        (rounds' state (bound' + 1))) (state : σ) :
    Follows full tail (TokenReader.ahead >>= fun here => rounds state (here.size + 1))
      (TokenReader.ahead >>= fun here => rounds' state (here.size + 1)) where
  follows input := by
    have all (bound bound' : Nat) (le : bound ≤ bound') (state : σ) :
        FollowsWithin bound full tail (rounds state bound) (rounds' state bound') := by
      induction bound generalizing bound' state with
      | zero => exact fun _ room => absurd room (Nat.not_lt_zero _)
      | succ bound ih =>
          obtain ⟨bound', rfl⟩ := Nat.exists_eq_succ_of_ne_zero (n := bound') (by omega)
          exact step bound bound' (ih bound' (by omega)) state
    refine .ahead fun _ => all _ _ ?_ state input (Nat.lt_succ_of_le input.rest.length_visible_le)
    rw [Tokens.size_append]
    omega

/-- The same for a loop without a state. -/
theorem loop {rounds rounds' : Nat → TokenReader α}
    (step : ∀ bound bound', FollowsWithin bound full tail (rounds bound) (rounds' bound') →
      FollowsWithin (bound + 1) full tail (rounds (bound + 1)) (rounds' (bound' + 1))) :
    Follows full tail (TokenReader.ahead >>= fun here => rounds (here.size + 1))
      (TokenReader.ahead >>= fun here => rounds' (here.size + 1)) :=
  loopFrom (fun bound bound' ih _ => step bound bound' (ih ())) ()

/-- A loop that makes a round less and is done where no token is left. -/
theorem loopUpTo {rounds rounds' : Nat → TokenReader α}
    (step : ∀ bound bound', FollowsWithin (bound + 1) full tail (rounds bound) (rounds' bound') →
      FollowsWithin (bound + 2) full tail (rounds (bound + 1)) (rounds' (bound' + 1)))
    (done : ∀ bound', FollowsWithin 1 full tail (rounds 0) (rounds' bound')) :
    Follows full tail (TokenReader.ahead >>= fun here => rounds here.size)
      (TokenReader.ahead >>= fun here => rounds' here.size) where
  follows input := by
    have all (bound bound' : Nat) (le : bound ≤ bound') :
        FollowsWithin (bound + 1) full tail (rounds bound) (rounds' bound') := by
      induction bound generalizing bound' with
      | zero => exact done bound'
      | succ bound ih =>
          obtain ⟨bound', rfl⟩ := Nat.exists_eq_succ_of_ne_zero (n := bound') (by omega)
          exact step bound bound' (ih bound' (by omega))
    refine .ahead fun _ => all _ _ ?_ input (Nat.lt_succ_of_le input.rest.length_visible_le)
    rw [Tokens.size_append]
    omega

instance (reader other : TokenReader α) [Fails reader] : Follows full tail reader other where
  follows _ _ _ read := absurd read Fails.fails

instance (value : α) : Follows full tail (pure value) (pure value) :=
  .of_forward fun read _ _ => by
    obtain ⟨rfl, rfl⟩ := pure_eq_ok_iff.mp read
    rfl

instance (priority := low) (reader : TokenReader α) [Forward reader] :
    Follows full [] reader reader :=
  .of_forward fun read _ _ => by simpa using read

instance (priority := low) (reader other : TokenReader α)
    [follows : Follows true tail reader other] : Follows false tail reader other where
  follows input value after read apart :=
    (follows.follows input value after read apart).imp_right fun again _ => again (.inl rfl)

end Follows

/-! ### Readers of a token -/

/-- A reader of the next token sees nothing of what is behind. -/
theorem TakesNext.follows {reader : TokenReader α} (next : TakesNext reader) :
    Follows full tail reader reader :=
  have := next.forward
  .of_forward fun read _ _ => by
    obtain ⟨token, rest, front, rfl, same⟩ := next _ _ _ read
    exact same _ _ (Tokens.expose_append_of_cons front tail)

instance (text : String) : Follows full tail (keyword text) (keyword text) :=
  (takesNext_keyword text).follows

instance : Follows full tail anyIdent anyIdent := takesNext_anyIdent.follows

instance : Follows full tail ident ident := takesNext_ident.follows

instance : Follows full tail literal literal := takesNext_literal.follows

instance : Follows full tail anyWord anyWord := by unfold anyWord; infer_instance

instance : Follows full tail name name := by unfold name; infer_instance

instance : Follows full tail lifetime lifetime := .of_forward fun read _ _ => by
  unfold lifetime at read
  split at read
  · rename_i place text span rest front
    cases read
    have front' := Tokens.expose_append_of_cons front tail
    simp only [lifetime, Input.rest_followedBy, front']
    rfl
  · exact absurd read Fails.fails

/-- More tokens behind an operator leave it as it is. -/
theorem splitChars?_append {chars : List Char} {tokens taken rest : Tokens}
    (split : splitChars? chars tokens = some (taken, rest)) (tail : Tokens) :
    splitChars? chars (tokens ++ tail) = some (taken, rest ++ tail) := by
  induction chars generalizing tokens taken with
  | nil =>
      cases split
      rfl
  | cons c cs ih =>
      obtain ⟨spacing, span, behind, front, further⟩ := splitChars?_cons_iff.mp split
      refine splitChars?_cons_iff.mpr
        ⟨spacing, span, behind ++ tail, Tokens.expose_append_of_cons front tail, ?_⟩
      obtain ⟨rfl, rfl, rfl⟩ | ⟨several, joint, more, found, rfl⟩ := further
      · exact .inl ⟨rfl, rfl, rfl⟩
      · exact .inr ⟨several, joint, more, ih found, rfl⟩

instance (text : String) : Follows full tail (operator text) (operator text) :=
  .of_forward fun read _ _ => by
    obtain ⟨rest, split, rfl⟩ := operator_eq_ok read
    simp only [operator, Input.rest_followedBy, splitChars?_append split tail]
    rfl

instance : Follows full tail anyGroup anyGroup := .of_forward fun read _ _ => by
  unfold anyGroup at read
  split at read
  · exact absurd read Fails.fails
  · rename_i delimiter inner span rest shown front
    cases read
    simp only [anyGroup, Input.rest_followedBy, front, List.cons_append]
    rfl
  · exact absurd read Fails.fails

/-! ### Readers of a group -/

/-- What is behind a group is not seen from the inside. -/
theorem inside_followedBy {content content' : TokenReader α}
    (follows : Follows true [] content content') {delimiter : Delimiter} {inner rest : Tokens}
    {span : Span} {input after : Input} {value : α}
    (read : inside content delimiter inner span rest input = .ok (value, after)) :
    after.rest = rest ∧ inside content' delimiter inner span (rest ++ tail)
      (input.followedBy tail) = .ok (value, after.followedBy tail) := by
  obtain ⟨done, content, rfl⟩ := inside_eq_ok read
  have again : content' ⟨inner, delimiter, span.last, input.leftover⟩ = .ok (value, done) := by
    simpa using (follows.follows _ _ _ content .nothing).2 (.inl rfl)
  refine ⟨rfl, ?_⟩
  simp only [inside, Input.followedBy, again]

instance (delimiter : Delimiter) (content content' : TokenReader α)
    [Follows true [] content content'] :
    Follows full tail (group delimiter content) (group delimiter content') where
  follows input value after read apart := by
    obtain ⟨inner, span, rest, front, read⟩ := group_eq_ok read
    have front' := Tokens.expose_append_of_cons front tail
    have follows : Follows true [] (do return (← content, span)) (do return (← content', span)) :=
      inferInstance
    obtain ⟨rfl, again⟩ := inside_followedBy follows read
    refine ⟨?_, fun _ => ?_⟩
    · rw [Tokens.visible_of_expose front]
      exact List.suffix_cons _ _
    · simp only [group, Input.rest_followedBy, front', if_true]
      exact again

instance (content content' : TokenReader α) [Follows true [] content content'] :
    Follows full tail (invisible content) (invisible content') where
  follows input value after read apart := by
    obtain ⟨inner, span, rest, front, read⟩ := invisible_eq_ok read
    have follows : Follows true [] (do return (← content, span)) (do return (← content', span)) :=
      inferInstance
    obtain ⟨rfl, again⟩ := inside_followedBy follows read
    refine ⟨?_, fun _ => ?_⟩
    · rw [front, Tokens.visible_cons]
      exact List.suffix_append _ _
    · simp only [invisible, Input.rest_followedBy, front, List.cons_append]
      exact again

instance (delimiter : Delimiter) (content content' : TokenReader Tokens)
    [Follows true [] content content'] :
    Follows full tail (grouped delimiter content) (grouped delimiter content') := by
  unfold grouped
  infer_instance

/-! ### Optional and repeated parts -/

/-- A part that may be there is looked for in the same place. -/
theorem Follows.ifAhead {condition : Tokens → Bool} {part part' : TokenReader Tokens}
    [Follows full tail part part']
    (same : ∀ front : Tokens, front.Apart tail → condition (front ++ tail) = condition front) :
    Follows full tail (ifAhead condition part) (ifAhead condition part') := by
  unfold TokenReader.ifAhead
  refine .ahead fun front apart => ?_
  rw [same front apart]
  infer_instance

/-- The same where a token is left. -/
theorem Follows.ifAhead_inside {condition : Tokens → Bool} {part part' : TokenReader Tokens}
    [Forward part] [Follows false tail part part']
    (same : ∀ front : Tokens, front.Apart tail → front.expose ≠ [] →
      condition (front ++ tail) = condition front) :
    Follows false tail (TokenReader.ifAhead condition part)
      (TokenReader.ifAhead condition part') := by
  unfold TokenReader.ifAhead
  refine .ahead_inside fun front apart some => ?_
  rw [same front apart some]
  infer_instance

theorem Follows.operator? {text : String} (unmarked : Tokens.isUnmarked text = true) :
    Follows full tail (operator? text) (operator? text) := by
  unfold TokenReader.operator?
  exact .ifAhead fun front apart => apart.sees unmarked

instance (text : String) : Follows full tail (keyword? text) (keyword? text) := by
  unfold keyword?
  exact .ifAhead fun front apart => apart.seesWord text

instance : Follows full tail lifetime? lifetime? := by
  unfold lifetime?
  exact .ifAhead fun front apart => apart.seesLifetime

instance : Follows full tail signedLiteral signedLiteral := by
  have sign : Follows full tail (operator? "-") (operator? "-") := .operator? (by decide)
  unfold signedLiteral
  infer_instance

instance (more : Tokens → Bool) (part part' : TokenReader Tokens)
    [Follows full [] part part'] (bound : Nat) :
    Follows full [] (repeatWhile.go more part bound) (repeatWhile.go more part' bound) := by
  induction bound with
  | zero => rw [repeatWhile.go, repeatWhile.go]; infer_instance
  | succ bound ih => rw [repeatWhile.go, repeatWhile.go]; infer_instance

instance (more : Tokens → Bool) (part part' : TokenReader Tokens)
    [Follows full [] part part'] :
    Follows full [] (repeatWhile more part) (repeatWhile more part') := by
  unfold repeatWhile
  infer_instance

/-- Each round takes a token, so that the rounds suffice with more behind. -/
theorem Follows.repeatWhile {more : Tokens → Bool} {part part' : TokenReader Tokens}
    [Takes part] [Follows full tail part part']
    (same : ∀ front : Tokens, front.Apart tail → more (front ++ tail) = more front) :
    Follows full tail (repeatWhile more part) (repeatWhile more part') := by
  unfold TokenReader.repeatWhile
  refine .loop fun bound bound' ih => ?_
  rw [repeatWhile.go, repeatWhile.go]
  refine .ahead fun front apart => ?_
  rw [same front apart]
  refine .ite (.bind_takes fun first => .bind ih fun rest => ?_) ?_
  · exact Follows.within _
  · exact Follows.within _

instance (separator : String) (before after : Tokens → Bool) (part part' : TokenReader Tokens)
    [Follows full [] part part'] (bound : Nat) :
    Follows full [] (separatedBy.go separator before after part bound)
      (separatedBy.go separator before after part' bound) := by
  induction bound with
  | zero => rw [separatedBy.go, separatedBy.go]; infer_instance
  | succ bound ih => rw [separatedBy.go, separatedBy.go]; infer_instance

instance (separator : String) (before after : Tokens → Bool) (part part' : TokenReader Tokens)
    [Follows full [] part part'] :
    Follows full [] (separatedBy separator before after part)
      (separatedBy separator before after part') := by
  unfold separatedBy
  infer_instance

instance (separator : String) (stop : Tokens → Bool) (part part' : TokenReader Tokens)
    [Follows full [] part part'] :
    Follows full [] (separated separator stop part) (separated separator stop part') := by
  unfold separated
  infer_instance

/-- Each round but the last takes a separator. -/
theorem Follows.separatedBy {separator : String} {before after : Tokens → Bool}
    {part part' : TokenReader Tokens} [Forward part] [follows : Follows full tail part part']
    [Takes (operator separator)]
    (sameBefore : ∀ front : Tokens, front.Apart tail → (full = true ∨ front.expose ≠ []) →
      before (front ++ tail) = before front)
    (sameAfter : ∀ front : Tokens, front.Apart tail → after (front ++ tail) = after front) :
    Follows full tail (separatedBy separator before after part)
      (separatedBy separator before after part') := by
  unfold TokenReader.separatedBy
  refine .loop fun bound bound' ih => ?_
  rw [separatedBy.go, separatedBy.go]
  refine .ahead_inside fun front apart inside => ?_
  rw [sameBefore front apart inside]
  refine .ite (Follows.within _) (.bind (follows.within _) fun first => ?_)
  refine .ahead fun front apart => ?_
  rw [sameAfter front apart]
  refine .ite (Follows.within _) (.bind_takes fun mark => ?_)
  exact .bind ih fun rest => Follows.within _

/-! ### What was written -/

end TokenReader

namespace Tokens

theorem seen_append (front tail : Tokens) : seen (front ++ tail) = seen front + seen tail := by
  induction front with
  | nil => simp [seen]
  | cons token front ih => simp [seen, ih, Nat.add_assoc]

/-- Counted from the end, the same tokens are in front. -/
theorem before_append (start tail : Tokens) (left : Nat) :
    before (left + seen tail) (start ++ tail) = before left start := by
  induction start with
  | nil =>
      cases tail with
      | nil => rfl
      | cons token tail => simp [before, seen]
  | cons token start ih =>
      simp only [List.cons_append, before, seen_append, ih, ← Nat.add_assoc,
        Nat.add_le_add_iff_right, Nat.add_sub_add_right]

end Tokens

namespace TokenReader

variable {α : Type} {full : Bool} {tail : Tokens}

instance (start : Tokens) : Follows full tail (taken start) (taken (start ++ tail)) :=
  .of_forward fun read _ _ => by
    cases read
    simp only [taken, bind_of_ok (ahead_eq _), Input.rest_followedBy, Tokens.seen_append,
      Tokens.before_append]
    rfl

instance (reader other : TokenReader α) [Follows full tail reader other] :
    Follows full tail (asWritten reader) (asWritten other) := by
  unfold asWritten
  exact .ahead fun front apart => inferInstance

end TokenReader

end MacroExpansion
