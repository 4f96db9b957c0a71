import MacroExpansion.Color.Literal

/-!
# Which texts are color literals

`Rgb.ofLiteral?` picks the text apart by position. Here its answer is tied to the form of the text,
`0x` and six hexadecimal digits, and to the number that the text writes: the three bytes are its
digits in base 256.
-/

namespace MacroExpansion

namespace Quoted

/-- The hexadecimal digits, letters in either case. -/
def IsHexDigit (c : Char) : Prop :=
  '0' ≤ c ∧ c ≤ '9' ∨ 'a' ≤ c ∧ c ≤ 'f' ∨ 'A' ≤ c ∧ c ≤ 'F'

theorem exists_hexDigit?_iff {c : Char} : (∃ d, hexDigit? c = some d) ↔ IsHexDigit c := by
  unfold hexDigit? IsHexDigit
  split
  · simp_all
  · split
    · simp_all
    · split <;> simp_all

end Quoted

namespace Rgb

open Quoted

/-- The text is `0x` and six hexadecimal digits. -/
def SixDigits (text : String) : Prop :=
  ∃ digits, text.toList = '0' :: 'x' :: digits ∧ digits.length = 6 ∧ ∀ c ∈ digits, IsHexDigit c

/-- The text is a color literal, and the bytes make up the number that it writes. -/
structure Writes (text : String) (red green blue : Nat) : Prop where
  form : SixDigits text
  value : Literal.value? text.toList = some (65536 * red + 256 * green + blue)
  red_lt : red < 256
  green_lt : green < 256
  blue_lt : blue < 256

theorem Writes.unique {text : String} {red green blue red' green' blue' : Nat}
    (first : Writes text red green blue) (second : Writes text red' green' blue') :
    red = red' ∧ green = green' ∧ blue = blue' := by
  have same := Option.some.inj (first.value.symm.trans second.value)
  have := first.green_lt
  have := first.blue_lt
  have := second.green_lt
  have := second.blue_lt
  omega

/-- Six digits write three bytes. -/
theorem exists_bytes_of_sixDigits {text : String} (form : SixDigits text) :
    ∃ red green blue, bytes? text.toList = some (red, green, blue) ∧
      Writes text red green blue := by
  obtain ⟨digits, split, six, hex⟩ := id form
  simp only [← exists_hexDigit?_iff] at hex
  obtain ⟨red, green, blue, found, value, red_lt, green_lt, blue_lt⟩ :=
    exists_bytes_of_six six hex
  refine ⟨red, green, blue, ?_, form, ?_, red_lt, green_lt, blue_lt⟩
  · rw [split, found]
  · rw [split]
    exact value

theorem sixDigits_of_bytes? {text : String} {bytes : Nat × Nat × Nat}
    (read : bytes? text.toList = some bytes) : SixDigits text := by
  unfold bytes? at read
  split at read
  · rename_i a b c d e f split
    simp only [byte?, Option.bind_eq_bind, Option.pure_def, Option.bind_eq_some_iff] at read
    obtain ⟨red, ⟨a', ha, b', hb, -⟩, green, ⟨c', hc, d', hd, -⟩, blue, ⟨e', he, f', hf, -⟩, -⟩ :=
      read
    refine ⟨[a, b, c, d, e, f], split, rfl, ?_⟩
    simp only [List.forall_mem_cons, ← exists_hexDigit?_iff]
    exact ⟨⟨a', ha⟩, ⟨b', hb⟩, ⟨c', hc⟩, ⟨d', hd⟩, ⟨e', he⟩, ⟨f', hf⟩, List.forall_mem_nil _⟩
  · cases read

/-- Exactly the color literals have channels, those of the bytes that they write. -/
theorem ofLiteral?_eq_some_iff {text : String} {rgb : Rgb} :
    ofLiteral? text = some rgb ↔
      ∃ red green blue, Writes text red green blue ∧ rgb = ofBytes red green blue := by
  constructor
  · intro read
    obtain ⟨⟨red, green, blue⟩, found, rfl⟩ := Option.map_eq_some_iff.mp read
    obtain ⟨red', green', blue', found', writes⟩ :=
      exists_bytes_of_sixDigits (sixDigits_of_bytes? found)
    cases found.symm.trans found'
    exact ⟨red, green, blue, writes, rfl⟩
  · rintro ⟨red, green, blue, writes, rfl⟩
    obtain ⟨red', green', blue', found, writes'⟩ := exists_bytes_of_sixDigits writes.form
    obtain ⟨rfl, rfl, rfl⟩ := writes.unique writes'
    rw [ofLiteral?, found]
    rfl

theorem ofLiteral?_eq_none_iff {text : String} : ofLiteral? text = none ↔ ¬ SixDigits text := by
  constructor
  · intro unread form
    obtain ⟨red, green, blue, -, writes⟩ := exists_bytes_of_sixDigits form
    exact nomatch unread.symm.trans (ofLiteral?_eq_some_iff.mpr ⟨red, green, blue, writes, rfl⟩)
  · intro malformed
    cases read : ofLiteral? text with
    | none => rfl
    | some rgb =>
        obtain ⟨red, green, blue, writes, -⟩ := ofLiteral?_eq_some_iff.mp read
        exact absurd writes.form malformed

end Rgb

end MacroExpansion
