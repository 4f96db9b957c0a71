import MacroExpansion.Color.Literal
import MacroExpansion.Proofs.Decimal.Rounding

/-!
# A channel as a number

A channel is the number nearest to its byte over 255. Multiplying it rounds a second time, but both
errors together stay far below any distance that matters: rounded to an integer, a multiple of a
channel is the integer that the exact multiple of the byte is closest to, unless it is all but a
tie. So nothing is lost, and `Channel.ofByte` tells bytes apart.
-/

namespace MacroExpansion

namespace Binary64

/-- Numbers that compare as equal have the same magnitude. -/
theorem Has.eq_of_equals {x y : Binary64} {p q : ℚ} (first : x.Has p) (second : y.Has q)
    (same : x.equals y = true) : p = q := by
  obtain ⟨m, e, rfl, rfl⟩ := first
  obtain ⟨n, f, rfl, rfl⟩ := second
  simp only [equals, Bool.or_eq_true, Bool.and_eq_true, beq_iff_eq] at same
  obtain ⟨rfl, rfl⟩ | ⟨⟨-, rfl⟩, rfl⟩ := same
  · simp
  · rfl

theorem Has.equals_self {x : Binary64} {q : ℚ} (has : x.Has q) : x.equals x = true := by
  obtain ⟨m, e, rfl, -⟩ := has
  simp [equals]

/-- Ordinary numbers have room for a significand of full length. -/
theorem covers_of_le {q : ℚ} (low : 1 / 1000 ≤ q) (high : q ≤ 1000) : Covers q := by
  refine .inr ⟨?_, ?_⟩
  · calc (2 : ℚ) ^ (-1022 : ℤ) ≤ 2 ^ (-10 : ℤ) := zpow_le_zpow_right₀ one_le_two (by decide)
      _ ≤ 1 / 1000 := by norm_num
      _ ≤ q := low
  · calc q ≤ 1000 := high
      _ < 2 ^ (10 : ℤ) := by norm_num
      _ ≤ 2 ^ (1023 : ℤ) := zpow_le_zpow_right₀ one_le_two (by decide)

end Binary64

namespace Channel

open Binary64

/-- The channel of a byte is the byte over 255, rounded once. -/
theorem ofByte_near {byte : Nat} (small : byte < 256) :
    ∃ q, (ofByte byte).Has q ∧ |q - byte / 255| ≤ byte / 255 / 2 ^ 53 := by
  refine ofRatio_near (by decide) ?_
  obtain none | some := Nat.eq_zero_or_pos byte
  · exact .inl (by simp [none])
  · have least : (1 : ℚ) ≤ byte := by exact_mod_cast some
    have most : (byte : ℚ) < 256 := by exact_mod_cast small
    refine covers_of_le ?_ ?_
    · rw [Nat.cast_ofNat, le_div_iff₀ (by norm_num)]
      linarith
    · rw [Nat.cast_ofNat, div_le_iff₀ (by norm_num)]
      linarith

/-- A multiple of a channel, rounded to an integer, is what the exact multiple is rounded to. -/
theorem round_mulNat_ofByte {byte k n : Nat} (small : byte < 256) (some : 0 < k) (most : k ≤ 255)
    (near : |(k * byte / 255 : ℚ) - n| ≤ 1 / 2 - 1 / 1000) :
    ((ofByte byte).mulNat k).round = ofRatio false n 1 := by
  obtain ⟨q, has, missed⟩ := ofByte_near small
  have low : (0 : ℚ) ≤ byte := Nat.cast_nonneg byte
  have high : (byte : ℚ) ≤ 255 := by exact_mod_cast Nat.le_of_lt_succ small
  have factor : (1 : ℚ) ≤ k := by exact_mod_cast some
  have bounded : (k : ℚ) ≤ 255 := by exact_mod_cast most
  obtain ⟨missedLow, missedHigh⟩ := abs_le.mp missed
  have atMost : q ≤ 1001 / 1000 := by linarith
  have scaled : q * k ≤ 256 := by
    calc q * k ≤ 1001 / 1000 * 255 := by gcongr
      _ ≤ 256 := by norm_num
  have covered : Covers (q * k) := by
    obtain none | some := Nat.eq_zero_or_pos byte
    · subst none
      have zero : q = 0 := by simpa using missed
      exact .inl (by simp [zero])
    · have least : (1 : ℚ) ≤ byte := by exact_mod_cast some
      have enough : 1 / 1000 ≤ q := by linarith
      exact covers_of_le (enough.trans (le_mul_of_one_le_right (by linarith) factor))
        (scaled.trans (by norm_num))
  obtain ⟨p, product, missedAgain⟩ := mulNat_near has k covered
  refine round_eq product ?_
  -- Both errors together are smaller than a thousandth.
  have first : |q * k - k * byte / 255| ≤ 255 / 2 ^ 53 := by
    have pulled : q * k - k * byte / 255 = (q - byte / 255) * k := by ring
    rw [pulled, abs_mul, Nat.abs_cast]
    calc |q - byte / 255| * k ≤ byte / 255 / 2 ^ 53 * 255 := by gcongr
      _ ≤ 255 / 2 ^ 53 := by linarith
  have second : |p - q * k| ≤ 256 / 2 ^ 53 := missedAgain.trans (by gcongr)
  calc |p - n| = |(p - q * k) + (q * k - k * byte / 255) + (k * byte / 255 - n)| := by
        congr 1
        ring
    _ ≤ |p - q * k| + |q * k - k * byte / 255| + |k * byte / 255 - (n : ℚ)| := abs_add_three ..
    _ < 1 / 2 := by
        norm_num at first second near ⊢
        linarith

/-- Multiplied by 255 and rounded, a channel gives its byte back. -/
theorem has_round_mulNat_ofByte {byte : Nat} (small : byte < 256) :
    (((ofByte byte).mulNat 255).round).Has byte := by
  rw [round_mulNat_ofByte (n := byte) small (by decide) (by decide)]
  · exact has_natural (by omega)
  · norm_num

/-- Channels compare as equal exactly if their bytes are the same. -/
theorem ofByte_equals_iff {byte other : Nat} (small : byte < 256) (small' : other < 256) :
    (ofByte byte).equals (ofByte other) = true ↔ byte = other := by
  obtain ⟨p, has, missed⟩ := ofByte_near small
  obtain ⟨q, has', missed'⟩ := ofByte_near small'
  constructor
  · intro same
    have eq := has.eq_of_equals has' same
    subst eq
    obtain ⟨low, high⟩ := abs_le.mp missed
    obtain ⟨low', high'⟩ := abs_le.mp missed'
    have most : (byte : ℚ) ≤ 255 := by exact_mod_cast Nat.le_of_lt_succ small
    have most' : (other : ℚ) ≤ 255 := by exact_mod_cast Nat.le_of_lt_succ small'
    have below : (byte : ℚ) < other + 1 := by linarith
    have above : (other : ℚ) < byte + 1 := by linarith
    have below' : byte < other + 1 := by exact_mod_cast below
    have above' : other < byte + 1 := by exact_mod_cast above
    omega
  · rintro rfl
    exact has.equals_self

end Channel

end MacroExpansion
