import MacroExpansion.Proofs.Color.Channel
import MacroExpansion.Proofs.Color.HexLiteral

/-!
# Color literals lose nothing

A text is accepted because of its form alone: behind the `0x` there are always six digits to read,
and the number that they write always fits. The channels are the bytes of that number, each over
255, and they determine it: multiplied by 255 and rounded they give the bytes back, so two texts
have the same channels exactly if they write the same digits, in upper or in lower case.
-/

namespace MacroExpansion

namespace Quoted

theorem IsHexDigit.toNat_lt {c : Char} (digit : IsHexDigit c) : c.toNat < 128 := by
  have value : c.toNat = c.val.toNat := rfl
  have nine : '9'.val.toNat = 57 := rfl
  have small : 'f'.val.toNat = 102 := rfl
  have large : 'F'.val.toNat = 70 := rfl
  simp only [IsHexDigit, Char.le_def, UInt32.le_iff_toNat_le] at digit
  omega

/-- In lower case there is one character for each value of a digit. -/
theorem toLower_of_hexDigit? {c : Char} {d : Nat} (digit : hexDigit? c = some d) :
    c.toLower = d.digitChar := by
  have table : ∀ n < 128, ∀ d < 16, hexDigit? (Char.ofNat n) = some d →
      (Char.ofNat n).toLower = d.digitChar := by decide
  have ascii : c.toNat < 128 := (exists_hexDigit?_iff.mp ⟨d, digit⟩).toNat_lt
  have small := hexDigit?_lt digit
  rw [← Char.ofNat_toNat c] at digit ⊢
  exact table c.toNat ascii d small digit

theorem digitChar_inj {d e : Nat} (small : d < 16) (small' : e < 16)
    (same : d.digitChar = e.digitChar) : d = e := by
  have table : ∀ d < 16, ∀ e < 16, Nat.digitChar d = Nat.digitChar e → d = e := by decide
  exact table d small e small' same

end Quoted

namespace Rgb

open Quoted

/-! ### Upper and lower case -/

/-- The text of three bytes in lower case. -/
def spelled (red green blue : Nat) : List Char :=
  '0' :: 'x' :: [red, green, blue].flatMap fun byte =>
    [(byte / 16).digitChar, (byte % 16).digitChar]

theorem toLower_of_byte? {high low : Char} {byte : Nat} (read : byte? high low = some byte) :
    high.toLower = (byte / 16).digitChar ∧ low.toLower = (byte % 16).digitChar := by
  simp only [byte?, Option.bind_eq_bind, Option.pure_def, Option.bind_eq_some_iff,
    Option.some.injEq] at read
  obtain ⟨h, first, l, second, rfl⟩ := read
  have small := hexDigit?_lt second
  have upper : (16 * h + l) / 16 = h := by omega
  have lower : (16 * h + l) % 16 = l := by omega
  rw [upper, lower]
  exact ⟨toLower_of_hexDigit? first, toLower_of_hexDigit? second⟩

/-- A text in lower case is determined by its bytes. -/
theorem toLower_of_bytes? {chars : List Char} {red green blue : Nat}
    (read : bytes? chars = some (red, green, blue)) :
    chars.map Char.toLower = spelled red green blue := by
  unfold bytes? at read
  split at read
  · simp only [Option.bind_eq_bind, Option.pure_def, Option.bind_eq_some_iff, Option.some.injEq,
      Prod.mk.injEq] at read
    obtain ⟨_, first, _, second, _, third, rfl, rfl, rfl⟩ := read
    obtain ⟨redHigh, redLow⟩ := toLower_of_byte? first
    obtain ⟨greenHigh, greenLow⟩ := toLower_of_byte? second
    obtain ⟨blueHigh, blueLow⟩ := toLower_of_byte? third
    simp [spelled, redHigh, redLow, greenHigh, greenLow, blueHigh, blueLow]
  · cases read

/-- And its bytes by the text. -/
theorem spelled_inj {red green blue red' green' blue' : Nat} (hr : red < 256) (hg : green < 256)
    (hb : blue < 256) (hr' : red' < 256) (hg' : green' < 256) (hb' : blue' < 256)
    (same : spelled red green blue = spelled red' green' blue') :
    red = red' ∧ green = green' ∧ blue = blue' := by
  have byte {m n : Nat} (hm : m < 256) (hn : n < 256)
      (high : (m / 16).digitChar = (n / 16).digitChar)
      (low : (m % 16).digitChar = (n % 16).digitChar) : m = n := by
    have := digitChar_inj (by omega) (by omega) high
    have := digitChar_inj (by omega) (by omega) low
    omega
  simp only [spelled, List.flatMap_cons, List.flatMap_nil, List.append_nil, List.cons_append,
    List.nil_append, List.cons.injEq, true_and, and_true] at same
  obtain ⟨r, r', g, g', b, b'⟩ := same
  exact ⟨byte hr hr' r r', byte hg hg' g g', byte hb hb' b b'⟩

theorem Writes.bytes?_eq {text : String} {red green blue : Nat}
    (writes : Writes text red green blue) : bytes? text.toList = some (red, green, blue) := by
  obtain ⟨_, _, _, found, others⟩ := exists_bytes_of_sixDigits writes.form
  obtain ⟨rfl, rfl, rfl⟩ := writes.unique others
  exact found

/-- Texts that write bytes are the same up to case exactly if the bytes are the same. -/
theorem Writes.toLower_iff {text other : String} {red green blue red' green' blue' : Nat}
    (first : Writes text red green blue) (second : Writes other red' green' blue') :
    text.toList.map Char.toLower = other.toList.map Char.toLower ↔
      red = red' ∧ green = green' ∧ blue = blue' := by
  rw [toLower_of_bytes? first.bytes?_eq, toLower_of_bytes? second.bytes?_eq]
  constructor
  · exact spelled_inj first.red_lt first.green_lt first.blue_lt second.red_lt second.green_lt
      second.blue_lt
  · rintro ⟨rfl, rfl, rfl⟩
    rfl

/-! ### The number that a text writes -/

/-- The bytes of a text are those that masks and shifts cut out of its number. -/
theorem Writes.masks {text : String} {red green blue number : Nat}
    (writes : Writes text red green blue) (value : Literal.value? text.toList = some number) :
    (number &&& 0xFF0000) >>> 16 = red ∧ (number &&& 0x00FF00) >>> 8 = green ∧
      number &&& 0x0000FF = blue := by
  obtain ⟨digits, split, six, hex⟩ := writes.form
  simp only [← exists_hexDigit?_iff] at hex
  have read := writes.bytes?_eq
  rw [split] at read value
  rw [bytes?_eq_masks six hex, show Literal.value?.digitsValue 16 digits = some number from value,
    Option.map_some, Option.some.injEq, Prod.mk.injEq, Prod.mk.injEq] at read
  exact read

/-- There is a number to read behind the mark of a color literal, and it has at most 24 bits. -/
theorem SixDigits.readable {text : String} (form : SixDigits text) :
    ∃ rest number, text = "0x" ++ rest ∧ (⟨2⟩ : String.Pos.Raw).IsValid text ∧
      Literal.value?.digitsValue 16 rest.toList = some number ∧ number < 2 ^ 24 := by
  obtain ⟨red, green, blue, -, writes⟩ := exists_bytes_of_sixDigits form
  obtain ⟨digits, split, -⟩ := form
  have cut : text = "0x" ++ String.ofList digits := by
    simp [← String.toList_inj, split]
  have value := writes.value
  rw [split] at value
  refine ⟨String.ofList digits, _, cut, ?_, by rw [String.toList_ofList]; exact value, ?_⟩
  · exact String.Pos.Raw.isValid_iff_exists_append.mpr ⟨"0x", String.ofList digits, cut, rfl⟩
  · have := writes.red_lt
    have := writes.green_lt
    have := writes.blue_lt
    omega

end Rgb

/-- The channel is this byte over 255, rounded once, and multiplied by 255 it is rounded to the
byte. -/
structure Channel.IsQuotient (channel : Binary64) (byte : Nat) : Prop where
  rounded : channel = Binary64.ofRatio false byte 255
  near : ∃ q, channel.Has q ∧ |q - byte / 255| ≤ byte / 255 / 2 ^ 53
  recovered : ((channel.mulNat 255).round).Has byte

theorem Channel.isQuotient_ofByte {byte : Nat} (small : byte < 256) :
    IsQuotient (ofByte byte) byte :=
  ⟨rfl, ofByte_near small, has_round_mulNat_ofByte small⟩

namespace Rgb

/-- All channels compare as equal. -/
def Same (rgb other : Rgb) : Prop :=
  rgb.red.equals other.red = true ∧ rgb.green.equals other.green = true ∧
    rgb.blue.equals other.blue = true

theorem same_ofBytes_iff {text other : String} {red green blue red' green' blue' : Nat}
    (first : Writes text red green blue) (second : Writes other red' green' blue') :
    Same (ofBytes red green blue) (ofBytes red' green' blue') ↔
      red = red' ∧ green = green' ∧ blue = blue' := by
  simp only [Same, ofBytes, Channel.ofByte_equals_iff first.red_lt second.red_lt,
    Channel.ofByte_equals_iff first.green_lt second.green_lt,
    Channel.ofByte_equals_iff first.blue_lt second.blue_lt]

theorem ofBytes_eq_iff {text other : String} {red green blue red' green' blue' : Nat}
    (first : Writes text red green blue) (second : Writes other red' green' blue') :
    ofBytes red green blue = ofBytes red' green' blue' ↔
      red = red' ∧ green = green' ∧ blue = blue' := by
  constructor
  · intro eq
    have self := (same_ofBytes_iff first first).mpr ⟨rfl, rfl, rfl⟩
    rw [← same_ofBytes_iff first second, ← eq]
    exact self
  · rintro ⟨rfl, rfl, rfl⟩
    rfl

/-- Exactly the texts of the right form are accepted, and no step behind the check of the form can
fail. The channels of a text are the bytes of its number, each over 255; they give the number back,
and only the case of its digits is forgotten. -/
theorem literal_lossless (text : String) :
    ((∃ rgb, ofLiteral? text = some rgb) ↔ SixDigits text) ∧
    (SixDigits text → ∃ rest number, text = "0x" ++ rest ∧ (⟨2⟩ : String.Pos.Raw).IsValid text ∧
      Literal.value?.digitsValue 16 rest.toList = some number ∧ number < 2 ^ 24) ∧
    ∀ rgb, ofLiteral? text = some rgb →
      ∃ number red green blue, Literal.value? text.toList = some number ∧
        red < 256 ∧ green < 256 ∧ blue < 256 ∧ 65536 * red + 256 * green + blue = number ∧
        (∀ r < 256, ∀ g < 256, ∀ b < 256, 65536 * r + 256 * g + b = number →
          r = red ∧ g = green ∧ b = blue) ∧
        ((number &&& 0xFF0000) >>> 16 = red ∧ (number &&& 0x00FF00) >>> 8 = green ∧
          number &&& 0x0000FF = blue) ∧
        Channel.IsQuotient rgb.red red ∧ Channel.IsQuotient rgb.green green ∧
        Channel.IsQuotient rgb.blue blue ∧
        ∀ other rgb', ofLiteral? other = some rgb' →
          (rgb = rgb' ↔ text.toList.map Char.toLower = other.toList.map Char.toLower) ∧
          (Same rgb rgb' ↔ text.toList.map Char.toLower = other.toList.map Char.toLower) := by
  refine ⟨?_, SixDigits.readable, ?_⟩
  · rw [← not_iff_not, ← ofLiteral?_eq_none_iff, Option.eq_none_iff_forall_ne_some, not_exists]
  · intro rgb accepted
    obtain ⟨red, green, blue, writes, rfl⟩ := ofLiteral?_eq_some_iff.mp accepted
    refine ⟨_, red, green, blue, writes.value, writes.red_lt, writes.green_lt, writes.blue_lt, rfl,
      ?_, writes.masks writes.value,
      Channel.isQuotient_ofByte writes.red_lt, Channel.isQuotient_ofByte writes.green_lt,
      Channel.isQuotient_ofByte writes.blue_lt, ?_⟩
    · intro r hr g hg b hb same
      have := writes.green_lt
      have := writes.blue_lt
      omega
    · intro other rgb' accepted'
      obtain ⟨red', green', blue', writes', rfl⟩ := ofLiteral?_eq_some_iff.mp accepted'
      rw [writes.toLower_iff writes']
      exact ⟨ofBytes_eq_iff writes writes', same_ofBytes_iff writes writes'⟩

end Rgb

end MacroExpansion
