import MacroExpansion.Proofs.Reading.Forward

/-!
# What readers give

`Gives P` says of a reader that whatever it reads has the property `P`. Like `Forward`, the class is
closed under the ways readers are put together, so that a rule of the grammar has it because its
parts do.

The property that matters most is that there is a token, `Tokens.Present`. A word, an operator and a
group always have one, and a token anywhere in a list is one in the list; the instances search for
it. Tokens that are kept the way they were written are there if the reader took one.
-/

namespace MacroExpansion

/-- There is a token. -/
class Tokens.Present (tokens : Tokens) : Prop where
  ne_nil : tokens ≠ []

namespace Tokens

instance (token : Token) (rest : Tokens) : Present (token :: rest) :=
  ⟨List.cons_ne_nil token rest⟩

instance (front rest : Tokens) [Present front] : Present (front ++ rest) :=
  ⟨List.append_ne_nil_of_left_ne_nil Present.ne_nil rest⟩

instance (front rest : Tokens) [Present rest] : Present (front ++ rest) :=
  ⟨List.append_ne_nil_of_right_ne_nil front Present.ne_nil⟩

instance (enclosed : Bool) (tokens : Tokens) [Present tokens] :
    Present (Setting.wrap enclosed tokens) := by
  unfold Setting.wrap
  split <;> infer_instance

end Tokens

mutual

theorem Token.seen_eq (token : Token) : token.seen = token.visible.length := by
  match token with
  | .ident text span => simp [Token.seen]
  | .punct c spacing span => simp [Token.seen]
  | .literal text span => simp [Token.seen]
  | .group .parenthesis inner span => simp [Token.seen, Token.visible]
  | .group .brace inner span => simp [Token.seen, Token.visible]
  | .group .bracket inner span => simp [Token.seen, Token.visible]
  | .group .invisible inner span =>
      rw [Token.seen, Tokens.visible_invisible]
      exact Tokens.seen_eq inner

/-- As many tokens are seen as there are with all invisible groups opened. -/
theorem Tokens.seen_eq (tokens : Tokens) : tokens.seen = tokens.visible.length := by
  match tokens with
  | [] => simp [Tokens.seen]
  | token :: rest =>
      rw [Tokens.seen, Tokens.visible_cons, List.length_append, token.seen_eq, Tokens.seen_eq rest]

end

mutual

theorem Token.present_before {left : Nat} (token : Token) (more : left < token.seen) :
    Tokens.Present (token.before left) := by
  match token with
  | .ident text span => simp only [Token.before]; infer_instance
  | .punct c spacing span => simp only [Token.before]; infer_instance
  | .literal text span => simp only [Token.before]; infer_instance
  | .group .parenthesis inner span => simp only [Token.before]; infer_instance
  | .group .brace inner span => simp only [Token.before]; infer_instance
  | .group .bracket inner span => simp only [Token.before]; infer_instance
  | .group .invisible inner span =>
      rw [Token.seen] at more
      rw [Token.before]
      exact Tokens.present_before inner more

/-- Where not everything is left, there is something in front. -/
theorem Tokens.present_before {left : Nat} (tokens : Tokens) (more : left < tokens.seen) :
    Tokens.Present (tokens.before left) := by
  match tokens with
  | [] => simp [Tokens.seen] at more
  | token :: rest =>
      rw [Tokens.seen] at more
      rw [Tokens.before, if_neg (by omega)]
      split
      · infer_instance
      · exact token.present_before (by omega)

end

namespace TokenReader

open Tokens

variable {α β : Type} {P : α → Prop} {Q : β → Prop}

/-- What is read has the property. -/
class Gives (P : α → Prop) (reader : TokenReader α) : Prop where
  holds {input after : Input} {value : α} (read : reader input = .ok (value, after)) : P value

namespace Gives

/-- The reading of a whole list of tokens gives what the reader does. -/
theorem of_run {reader : TokenReader α} (gives : Gives P reader) {tokens : Tokens} {value : α}
    (read : reader.run tokens = .ok value) : P value := by
  unfold run at read
  split at read
  · cases read
  · rename_i found done one
    split at read
    · cases read
    · cases read
      exact gives.holds one

/-! ### Ways to put readers together -/

protected theorem pure {value : α} (holds : P value) : Gives P (pure value) where
  holds read := by
    obtain ⟨rfl, -⟩ := pure_eq_ok_iff.mp read
    exact holds

/-- It is enough that what follows has the property, given that the first part has its own. -/
theorem found {first : TokenReader α} {next : α → TokenReader β} (given : Gives P first)
    (gives : ∀ value, P value → Gives Q (next value)) : Gives Q (first >>= next) where
  holds read := by
    obtain ⟨value, between, one, two⟩ := bind_eq_ok_iff.mp read
    exact (gives value (given.holds one)).holds two

/-- It is enough that what follows has the property, whatever is read first. -/
protected theorem bind {first : TokenReader α} {next : α → TokenReader β}
    (gives : ∀ value, Gives Q (next value)) : Gives Q (first >>= next) where
  holds read := by
    obtain ⟨value, between, one, two⟩ := bind_eq_ok_iff.mp read
    exact (gives value).holds two

instance (priority := low) (first : TokenReader α) (next : α → TokenReader β)
    [gives : ∀ value, Gives Q (next value)] : Gives Q (first >>= next) := .bind gives

/-- Behind tokens that are there, it is enough to look at lists that begin with one. -/
theorem behind {first : TokenReader Tokens} {next : Tokens → TokenReader β}
    [there : Gives Present first] (gives : ∀ token rest, Gives Q (next (token :: rest))) :
    Gives Q (first >>= next) := by
  refine there.found fun tokens present => ?_
  obtain ⟨token, rest, rfl⟩ := List.exists_cons_of_ne_nil present.ne_nil
  exact gives token rest

instance (first : TokenReader Tokens) (next : Tokens → TokenReader β) [Gives Present first]
    [gives : ∀ token rest, Gives Q (next (token :: rest))] : Gives Q (first >>= next) :=
  behind gives

protected theorem ite {condition : Prop} [Decidable condition] {yes no : TokenReader α}
    (left : Gives P yes) (right : Gives P no) : Gives P (if condition then yes else no) := by
  split
  · exact left
  · exact right

instance (condition : Prop) [Decidable condition] (yes no : TokenReader α)
    [left : Gives P yes] [right : Gives P no] : Gives P (if condition then yes else no) :=
  .ite left right

instance (reader : TokenReader α) [Fails reader] : Gives P reader where
  holds read := absurd read Fails.fails

/-! ### Readers that look whether a form begins here -/

end Gives

/-- What is found, if something is, has the property. -/
def Found (P : α → Prop) (found : Option α) : Prop := ∀ value, found = some value → P value

namespace Gives

instance : Gives (Found P) (pure none) := .pure nofun

instance (value : α) [gives : Gives P (pure value : TokenReader α)] :
    Gives (Found P) (pure (some value)) where
  holds read := by
    obtain ⟨rfl, stays⟩ := pure_eq_ok_iff.mp read
    rintro _ ⟨⟩
    exact gives.holds (pure_eq_ok_iff.mpr ⟨rfl, stays⟩)

instance (reader : TokenReader α) [gives : Gives P reader] :
    Gives (Found P) (reader >>= fun value => pure (some value)) :=
  gives.found fun _ holds => .pure fun _ same => Option.some.inj same ▸ holds

/-- A form if it begins here, and another one if not. -/
theorem option {first : TokenReader (Option α)} {next : Option α → TokenReader β}
    [given : Gives (Found P) first] (found : ∀ value, P value → Gives Q (next (some value)))
    (missing : Gives Q (next none)) : Gives Q (first >>= next) := by
  refine given.found fun value? holds => ?_
  cases value? with
  | none => exact missing
  | some value => exact found value (holds value rfl)

/-! ### Readers of a group -/

theorem of_inside {content : TokenReader α} (gives : Gives P content) {delimiter : Delimiter}
    {inner rest : Tokens} {span : Span} {input after : Input} {value : α × Span}
    (read : inside (do return (← content, span)) delimiter inner span rest input =
      .ok (value, after)) : P value.1 := by
  obtain ⟨done, whole, -⟩ := inside_eq_ok read
  obtain ⟨found, between, one, two⟩ := bind_eq_ok_iff.mp whole
  obtain ⟨rfl, -⟩ := pure_eq_ok_iff.mp two
  exact gives.holds one

protected theorem group {content : TokenReader α} (gives : Gives P content)
    (delimiter : Delimiter) : Gives (fun value => P value.1) (group delimiter content) where
  holds read := by
    obtain ⟨inner, span, rest, -, read⟩ := group_eq_ok read
    exact gives.of_inside read

protected theorem invisible {content : TokenReader α} (gives : Gives P content) :
    Gives (fun value => P value.1) (invisible content) where
  holds read := by
    obtain ⟨inner, span, rest, -, read⟩ := invisible_eq_ok read
    exact gives.of_inside read

end Gives

/-! ### Readers of tokens -/

instance (tokens : Tokens) [Present tokens] : Gives Present (pure tokens) := .pure inferInstance

instance (text : String) : Gives Present (keyword text) where
  holds read := by
    obtain ⟨span, rest, -, rfl, -⟩ := keyword_eq_ok read
    infer_instance

/-- An operator has a character. -/
theorem present_operator {text : String} (some : text.toList ≠ []) :
    Gives Present (operator text) where
  holds read := by
    obtain ⟨rest, split, -⟩ := operator_eq_ok read
    obtain ⟨c, cs, chars⟩ := List.exists_cons_of_ne_nil some
    rw [chars] at split
    obtain ⟨_, _, _, -, ⟨-, rfl, -⟩ | ⟨-, -, _, -, rfl⟩⟩ := splitChars?_cons_iff.mp split
    · infer_instance
    · infer_instance

instance (delimiter : Delimiter) (content : TokenReader Tokens) :
    Gives Present (grouped delimiter content) := by unfold grouped; infer_instance

/-- Something was taken if less is left than there was at the start. -/
theorem present_taken {start tokens : Tokens} {input after : Input}
    (less : input.rest.visible.length < start.visible.length)
    (read : taken start input = .ok (tokens, after)) : Present tokens := by
  cases read
  refine present_before start ?_
  rwa [seen_eq, seen_eq]

instance (reader : TokenReader α) [Takes reader] : Gives Present (asWritten reader) where
  holds read := by
    obtain ⟨start, _, looked, further⟩ := bind_eq_ok_iff.mp read
    cases looked
    obtain ⟨value, done, one, kept⟩ := bind_eq_ok_iff.mp further
    exact present_taken (Takes.takes one) kept

end TokenReader

end MacroExpansion
