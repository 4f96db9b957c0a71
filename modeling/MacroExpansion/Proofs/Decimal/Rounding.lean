import MacroExpansion.Decimal.Binary64
import Mathlib.Algebra.Order.Field.Power
import Mathlib.Data.Rat.Cast.Order
import Mathlib.Tactic.FieldSimp
import Mathlib.Tactic.Linarith
import Mathlib.Tactic.NormNum
import Mathlib.Tactic.Positivity
import Mathlib.Tactic.Ring

/-!
# How far rounding goes

Every operation on numbers of 64 bits computes a ratio exactly and rounds it once. Here the error of
that one rounding is bounded: `Binary64.ofRatio` misses a ratio by at most its `2 ^ 53`rd part, as
long as the ratio is neither too large nor too small for a significand of full length. Natural
numbers below `2 ^ 53` are not missed at all, and rounding to an integer gives the one that is less
than a half away.

The bound holds because the exponent is chosen so that the significand has exactly 53 bits.
-/

namespace MacroExpansion

namespace Binary64

/-- The number is finite, without a sign, and has this magnitude. -/
def Has (x : Binary64) (q : ℚ) : Prop :=
  ∃ (significand : Nat) (exponent : Int),
    x = finite false significand exponent ∧ q = significand * 2 ^ exponent

/-- The ratio is zero, or a significand of full length can stand for it. -/
def Covers (q : ℚ) : Prop := q = 0 ∨ (2 : ℚ) ^ (-1022 : ℤ) ≤ q ∧ q < 2 ^ (1023 : ℤ)

/-! ### Rounding a ratio to a natural number -/

theorem roundEven_one (n : Nat) : roundEven n 1 = n := by
  simp [roundEven, Nat.mod_one]

/-- The natural number is at most a half away. -/
theorem abs_roundEven_sub_le (num : Nat) {den : Nat} (pos : 0 < den) :
    |(roundEven num den : ℚ) - num / den| ≤ 1 / 2 := by
  have cut := Nat.div_add_mod num den
  have small := Nat.mod_lt num pos
  have near : 2 * (roundEven num den * den) ≤ 2 * num + den ∧
      2 * num ≤ 2 * (roundEven num den * den) + den := by
    have next : (num / den + 1) * den = den * (num / den) + den := by
      rw [Nat.add_mul, Nat.one_mul, Nat.mul_comm]
    have same : num / den * den = den * (num / den) := Nat.mul_comm ..
    unfold roundEven
    dsimp only
    split
    · omega
    · split
      · omega
      · split <;> omega
  have pos' : (0 : ℚ) < den := by exact_mod_cast pos
  have below : (2 : ℚ) * (roundEven num den * den) ≤ 2 * num + den := by exact_mod_cast near.1
  have above : (2 : ℚ) * num ≤ 2 * (roundEven num den * den) + den := by exact_mod_cast near.2
  have scaled : (roundEven num den : ℚ) - num / den =
      (roundEven num den * den - num) / den := by
    field_simp
  rw [scaled, abs_le, le_div_iff₀ pos', div_le_iff₀ pos']
  constructor <;> linarith

/-! ### Scaling by a power of two -/

theorem scaled_pos (num : Nat) {den : Nat} (pos : 0 < den) (exponent : Int) :
    0 < (scaled num den exponent).2 := by
  cases exponent with
  | ofNat n => exact Nat.mul_pos pos (Nat.two_pow_pos n)
  | negSucc n => exact pos

theorem scaled_eq (num den : Nat) (exponent : Int) :
    ((scaled num den exponent).1 : ℚ) / (scaled num den exponent).2 =
      num / den / 2 ^ exponent := by
  cases exponent with
  | ofNat n => simp [scaled, div_div]
  | negSucc n =>
      simp only [scaled, Nat.pow_eq, Nat.cast_mul, Nat.cast_pow, Nat.cast_ofNat, zpow_negSucc,
        div_inv_eq_mul]
      ring

theorem ratio_pos (significand : Nat) (exponent : Int) : 0 < (ratio significand exponent).2 := by
  cases exponent with
  | ofNat n => exact Nat.one_pos
  | negSucc n => exact Nat.two_pow_pos (n + 1)

theorem ratio_eq (significand : Nat) (exponent : Int) :
    ((ratio significand exponent).1 : ℚ) / (ratio significand exponent).2 =
      significand * 2 ^ exponent := by
  cases exponent with
  | ofNat n => simp [ratio]
  | negSucc n =>
      simp only [ratio, Nat.pow_eq, Nat.cast_pow, Nat.cast_ofNat, zpow_negSucc]
      rw [div_eq_mul_inv]

/-! ### The exponent of a ratio -/

/-- The quotient of two natural numbers, by the positions of their leading bits. -/
theorem div_bounds {num den : Nat} (some : 0 < num) (pos : 0 < den) :
    (2 : ℚ) ^ ((num.log2 : ℤ) - den.log2 - 1) < num / den ∧
      (num : ℚ) / den < 2 ^ ((num.log2 : ℤ) - den.log2 + 1) := by
  have pos' : (0 : ℚ) < den := by exact_mod_cast pos
  have numLow : (2 : ℚ) ^ (num.log2 : ℤ) ≤ num := by
    exact_mod_cast Nat.log2_self_le some.ne'
  have numHigh : (num : ℚ) < 2 ^ ((num.log2 : ℤ) + 1) := by
    exact_mod_cast Nat.lt_log2_self (n := num)
  have denLow : (2 : ℚ) ^ (den.log2 : ℤ) ≤ den := by
    exact_mod_cast Nat.log2_self_le pos.ne'
  have denHigh : (den : ℚ) < 2 ^ ((den.log2 : ℤ) + 1) := by
    exact_mod_cast Nat.lt_log2_self (n := den)
  have split (a b : ℤ) : (2 : ℚ) ^ (a + b) = 2 ^ a * 2 ^ b := zpow_add₀ two_ne_zero a b
  constructor
  · rw [lt_div_iff₀ pos']
    calc (2 : ℚ) ^ ((num.log2 : ℤ) - den.log2 - 1) * den
        < 2 ^ ((num.log2 : ℤ) - den.log2 - 1) * 2 ^ ((den.log2 : ℤ) + 1) := by gcongr
      _ = 2 ^ (num.log2 : ℤ) := by rw [← split]; congr 1; omega
      _ ≤ num := numLow
  · rw [div_lt_iff₀ pos']
    calc (num : ℚ) < 2 ^ ((num.log2 : ℤ) + 1) := numHigh
      _ = 2 ^ ((num.log2 : ℤ) - den.log2 + 1) * 2 ^ (den.log2 : ℤ) := by
          rw [← split]; congr 1; omega
      _ ≤ 2 ^ ((num.log2 : ℤ) - den.log2 + 1) * den := by gcongr

/-- The first guess at the exponent of a ratio, from the leading bits alone. -/
def guess (num den : Nat) : Int := (num.log2 : Int) - den.log2 - 52

/-- If the significand is a bit short at the guess, the exponent is one less. -/
theorem exponentOf_eq (num den : Nat) :
    exponentOf num den =
      max (if (scaled num den (guess num den)).1 < (scaled num den (guess num den)).2 * leadingBit
        then guess num den - 1 else guess num den) minExponent := rfl

/-- At the guess a significand has 52 or 53 bits. -/
theorem guess_bounds {num den : Nat} (some : 0 < num) (pos : 0 < den) :
    (2 : ℚ) ^ 51 < num / den / 2 ^ guess num den ∧
      (num : ℚ) / den / 2 ^ guess num den < 2 ^ 53 := by
  obtain ⟨lower, upper⟩ := div_bounds some pos
  have power : (0 : ℚ) < 2 ^ guess num den := zpow_pos two_pos _
  have split (a b : ℤ) : (2 : ℚ) ^ (a + b) = 2 ^ a * 2 ^ b := zpow_add₀ two_ne_zero a b
  constructor
  · rw [lt_div_iff₀ power]
    refine lt_of_eq_of_lt ?_ lower
    rw [← zpow_natCast (2 : ℚ) 51, ← split, guess]
    congr 1
    omega
  · rw [div_lt_iff₀ power]
    refine lt_of_lt_of_eq upper ?_
    rw [← zpow_natCast (2 : ℚ) 53, ← split, guess]
    congr 1
    omega

theorem scaled_lt_iff (num : Nat) {den : Nat} (pos : 0 < den) (exponent : Int) :
    (scaled num den exponent).1 < (scaled num den exponent).2 * leadingBit ↔
      (num : ℚ) / den / 2 ^ exponent < 2 ^ 52 := by
  have pos' : (0 : ℚ) < (scaled num den exponent).2 := by
    exact_mod_cast scaled_pos num pos exponent
  have bit : (leadingBit : ℚ) = 2 ^ 52 := by norm_num [leadingBit]
  rw [← scaled_eq, div_lt_iff₀ pos', ← bit, mul_comm]
  exact_mod_cast Iff.rfl

/-- At the exponent of a ratio its significand has exactly 53 bits. -/
theorem exponentOf_bounds {num den : Nat} (some : 0 < num) (pos : 0 < den)
    (low : (2 : ℚ) ^ (-1022 : ℤ) ≤ num / den) :
    (2 : ℚ) ^ 52 ≤ num / den / 2 ^ exponentOf num den ∧
      (num : ℚ) / den / 2 ^ exponentOf num den < 2 ^ 53 := by
  obtain ⟨lower, upper⟩ := guess_bounds some pos
  obtain ⟨exact, chosen, enough, atMost⟩ : ∃ exact : ℤ,
      exponentOf num den = max exact minExponent ∧
        (2 : ℚ) ^ 52 ≤ num / den / 2 ^ exact ∧ (num : ℚ) / den / 2 ^ exact < 2 ^ 53 := by
    by_cases short : (num : ℚ) / den / 2 ^ guess num den < 2 ^ 52
    · have doubled : (num : ℚ) / den / 2 ^ (guess num den - 1) =
          2 * (num / den / 2 ^ guess num den) := by
        rw [zpow_sub_one₀ two_ne_zero]
        field_simp
      refine ⟨guess num den - 1, ?_, ?_, ?_⟩
      · rw [exponentOf_eq, if_pos ((scaled_lt_iff num pos _).mpr short)]
      · rw [doubled]; linarith
      · rw [doubled]; linarith
    · refine ⟨guess num den, ?_, not_lt.mp short, upper⟩
      rw [exponentOf_eq, if_neg (mt (scaled_lt_iff num pos _).mp short)]
  have inRange : minExponent ≤ exact := by
    rw [div_lt_iff₀ (zpow_pos two_pos exact), ← zpow_natCast (2 : ℚ) 53,
      ← zpow_add₀ two_ne_zero] at atMost
    have := (zpow_lt_zpow_iff_right₀ one_lt_two).mp (low.trans_lt atMost)
    simp only [minExponent]
    omega
  rw [chosen, max_eq_left inRange]
  exact ⟨enough, atMost⟩

/-! ### Rounding a ratio -/

theorem has_zero (den : Nat) : (ofRatio false 0 den).Has 0 := by
  rw [ofRatio, if_pos rfl]
  exact ⟨0, minExponent, rfl, by simp⟩

/-- What is left of a ratio when its significand is known: a carry goes into the exponent. -/
theorem has_ofRatio {num den n d : Nat} {exponent : Int} (some : 0 < num)
    (chosen : exponentOf num den = exponent) (fits : exponent + 1 ≤ maxExponent)
    (shifted : scaled num den exponent = (n, d)) :
    (ofRatio false num den).Has (roundEven n d * 2 ^ exponent) := by
  unfold ofRatio
  rw [if_neg some.ne', chosen]
  dsimp only
  rw [shifted]
  dsimp only
  by_cases carry : roundEven n d = 2 * leadingBit
  · rw [if_pos carry]
    dsimp only
    rw [if_neg (not_lt.mpr fits), carry]
    refine ⟨leadingBit, exponent + 1, rfl, ?_⟩
    rw [zpow_add_one₀ two_ne_zero]
    push_cast
    ring
  · rw [if_neg carry]
    dsimp only
    rw [if_neg (by omega)]
    exact ⟨_, _, rfl, rfl⟩

/-- A ratio is missed by at most its `2 ^ 53`rd part. -/
theorem ofRatio_near {num den : Nat} (pos : 0 < den) (covered : Covers (num / den)) :
    ∃ q, (ofRatio false num den).Has q ∧ |q - num / den| ≤ num / den / 2 ^ 53 := by
  obtain none | some := Nat.eq_zero_or_pos num
  · subst none
    exact ⟨0, has_zero den, by simp⟩
  · have positive : (0 : ℚ) < num / den := div_pos (by exact_mod_cast some) (by exact_mod_cast pos)
    obtain ⟨low, high⟩ := covered.resolve_left positive.ne'
    obtain ⟨enough, -⟩ := exponentOf_bounds some pos low
    generalize chosen : exponentOf num den = exponent at enough
    have power : (0 : ℚ) < 2 ^ exponent := zpow_pos two_pos exponent
    rw [le_div_iff₀ power] at enough
    have fits : exponent + 1 ≤ maxExponent := by
      rw [← zpow_natCast (2 : ℚ) 52, ← zpow_add₀ two_ne_zero] at enough
      have := (zpow_lt_zpow_iff_right₀ one_lt_two).mp (enough.trans_lt high)
      simp only [maxExponent]
      omega
    have shifted := scaled_eq num den exponent
    have positive := scaled_pos num pos exponent
    rcases cut : scaled num den exponent with ⟨n, d⟩
    rw [cut] at shifted positive
    have half := abs_roundEven_sub_le n positive
    rw [shifted] at half
    refine ⟨_, has_ofRatio some chosen fits cut, ?_⟩
    generalize (roundEven n d : ℚ) = rounded at half ⊢
    calc |rounded * 2 ^ exponent - num / den|
        = |(rounded - num / den / 2 ^ exponent) * 2 ^ exponent| := by
          rw [sub_mul, div_mul_cancel₀ _ power.ne']
      _ = |rounded - num / den / 2 ^ exponent| * 2 ^ exponent := by rw [abs_mul, abs_of_pos power]
      _ ≤ 1 / 2 * 2 ^ exponent := by gcongr
      _ ≤ num / den / 2 ^ 53 := by
          rw [le_div_iff₀ (by positivity)]
          linarith

/-! ### The operations -/

/-- A product is missed by at most its `2 ^ 53`rd part. -/
theorem mulNat_near {x : Binary64} {q : ℚ} (has : x.Has q) (k : Nat) (covered : Covers (q * k)) :
    ∃ p, (x.mulNat k).Has p ∧ |p - q * k| ≤ q * k / 2 ^ 53 := by
  obtain ⟨significand, exponent, rfl, rfl⟩ := has
  have exact : (((ratio significand exponent).1 * k : Nat) : ℚ) / (ratio significand exponent).2 =
      significand * 2 ^ exponent * k := by
    rw [← ratio_eq, Nat.cast_mul, mul_div_right_comm]
  rw [← exact] at covered ⊢
  exact ofRatio_near (ratio_pos significand exponent) covered

/-- The nearest integer is the one less than a half away. -/
theorem round_eq {x : Binary64} {q : ℚ} (has : x.Has q) {n : Nat} (near : |q - n| < 1 / 2) :
    x.round = ofRatio false n 1 := by
  obtain ⟨significand, exponent, rfl, rfl⟩ := has
  have pos := ratio_pos significand exponent
  rw [← ratio_eq, abs_lt] at near
  rw [round]
  generalize ratio significand exponent = fraction at near pos ⊢
  obtain ⟨num, den⟩ := fraction
  dsimp only at near pos ⊢
  have pos' : (0 : ℚ) < den := by exact_mod_cast pos
  obtain ⟨low, high⟩ := near
  rw [lt_sub_iff_add_lt, lt_div_iff₀ pos'] at low
  rw [sub_lt_iff_lt_add, div_lt_iff₀ pos'] at high
  have nearest : (2 * num + den) / (2 * den) = n := by
    refine Nat.div_eq_of_lt_le ?_ ?_
    · have : (n * (2 * den) : ℚ) ≤ 2 * num + den := by linarith
      exact_mod_cast this
    · have : (2 * num + den : ℚ) < (n + 1) * (2 * den) := by linarith
      exact_mod_cast this
  rw [nearest]

theorem scaled_one {n : Nat} {exponent : Int} (small : exponent ≤ 0) :
    (scaled n 1 exponent).2 = 1 := by
  match exponent, small with
  | .ofNat 0, _ => rfl
  | .negSucc _, _ => rfl

/-- A natural number of up to 53 bits needs no bits behind the point. -/
theorem exponentOf_natural {n : Nat} (some : 0 < n) (small : n < 2 ^ 53) :
    exponentOf n 1 ≤ 0 := by
  have bits : n.log2 < 53 := (Nat.log2_lt some.ne').mpr small
  have one : Nat.log2 1 = 0 := rfl
  rw [exponentOf_eq, max_le_iff, guess, one]
  refine ⟨?_, by decide⟩
  split <;> omega

/-- Natural numbers of up to 53 bits are kept as they are. -/
theorem has_natural {n : Nat} (small : n < 2 ^ 53) : (ofRatio false n 1).Has n := by
  obtain none | some := Nat.eq_zero_or_pos n
  · subst none
    simpa using has_zero 1
  · have fits := exponentOf_natural some small
    generalize chosen : exponentOf n 1 = exponent at fits
    have power : (0 : ℚ) < 2 ^ exponent := zpow_pos two_pos exponent
    have whole := scaled_one (n := n) fits
    have shifted := scaled_eq n 1 exponent
    rcases cut : scaled n 1 exponent with ⟨m, d⟩
    rw [cut] at whole shifted
    dsimp only at whole shifted
    subst whole
    rw [Nat.cast_one, div_one, div_one, eq_div_iff power.ne'] at shifted
    have room : exponent + 1 ≤ maxExponent := by
      simp only [maxExponent]
      omega
    have has := has_ofRatio some chosen room cut
    rwa [roundEven_one, shifted] at has

end Binary64

end MacroExpansion
