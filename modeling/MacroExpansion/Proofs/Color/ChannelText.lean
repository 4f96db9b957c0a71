import MacroExpansion.Proofs.Color.Channel
import MacroExpansion.Proofs.Color.Reference

/-!
# Channels as they are written

In the code of a color a channel is a decimal of at most two places. `Channel.Spells` says which
one: the hundredths nearest to the byte over 255, as few digits as they need, and at least one
behind the point, so that the literal is a float.

A hundred times a byte over 255 is a number of 51sts with an even numerator, so it never lies in
the middle between two integers, and it keeps a distance from there that no rounding on the way can
bridge. What is left are a hundred and one numbers, and how each of them prints.
-/

namespace MacroExpansion

/-! ### Decimals as literals -/

namespace Literal

/-- The characters are digits, a point and more digits, and mean this number. -/
def Decimal (text : List Char) (q : ℚ) : Prop :=
  ∃ whole fraction m n, text = whole ++ '.' :: fraction ∧ whole ≠ [] ∧ fraction ≠ [] ∧
    (∀ c ∈ whole, c.isDigit = true) ∧ (∀ c ∈ fraction, c.isDigit = true) ∧
    value?.digitsValue 10 whole = some m ∧ value?.digitsValue 10 fraction = some n ∧
    q = m + n / 10 ^ fraction.length

theorem isStart_of_isDigit {c : Char} (digit : c.isDigit = true) :
    Identifier.isStart c = false := by
  have table : ∀ n < 128, (Char.ofNat n).isDigit = true →
      Identifier.isStart (Char.ofNat n) = false := by decide
  have ascii : c.toNat < 128 := by
    simp only [Char.isDigit, Bool.and_eq_true, decide_eq_true_eq, UInt32.le_iff_toNat_le] at digit
    have value : c.toNat = c.val.toNat := rfl
    have nine : '9'.val.toNat = 57 := rfl
    omega
  rw [← Char.ofNat_toNat c] at digit ⊢
  exact table c.toNat ascii digit

/-- Digits are passed over, a point is not. -/
theorem dropWhile_digits {digits : List Char} (all : ∀ c ∈ digits, c.isDigit = true)
    (rest : List Char) :
    (digits ++ rest).dropWhile isDigitOrGap = rest.dropWhile isDigitOrGap := by
  refine List.dropWhile_append_of_pos fun c member => ?_
  simp [isDigitOrGap, all c member]

/-- A decimal from its second character on. -/
theorem Decimal.parts {text : List Char} {q : ℚ} (decimal : Decimal text q) :
    ∃ c rest fraction, text = c :: rest ∧ c.isDigit = true ∧
      rest.dropWhile isDigitOrGap = '.' :: fraction ∧ fraction ≠ [] ∧
      ∀ d ∈ fraction, d.isDigit = true := by
  obtain ⟨whole, fraction, -, -, rfl, some, more, digits, digits', -⟩ := decimal
  obtain ⟨c, whole, rfl⟩ := List.exists_cons_of_ne_nil some
  refine ⟨c, whole ++ '.' :: fraction, fraction, rfl, digits c (List.mem_cons_self ..), ?_, more,
    digits'⟩
  rw [dropWhile_digits fun d member => digits d (List.mem_cons_of_mem c member)]
  rfl

theorem Decimal.float? {text : List Char} {q : ℚ} (decimal : Decimal text q) :
    float? text = some [] := by
  obtain ⟨c, rest, fraction, rfl, first, dropped, more, digits⟩ := decimal.parts
  obtain ⟨d, fraction, rfl⟩ := List.exists_cons_of_ne_nil more
  have next : d.isDigit = true := digits d (List.mem_cons_self ..)
  have notPoint : d ≠ '.' := by
    rintro rfl
    exact absurd next (by decide)
  have behind : afterPoint (d :: fraction) = [] := by
    have none := dropWhile_digits digits []
    rw [List.append_nil] at none
    simp only [afterPoint, none, List.dropWhile_nil]
  have found : floatDigits? (c :: rest) = some [] := by
    simp only [floatDigits?, if_pos first, dropped, List.head?_cons, Option.any_some,
      isStart_of_isDigit next, Bool.or_false, beq_iff_eq, if_neg notPoint, behind]
  rw [Literal.float?, found]
  rfl

theorem Decimal.rest? {text : List Char} {q : ℚ} (decimal : Decimal text q) :
    rest? text = some [] := by
  obtain ⟨c, rest, -, rfl, first, -⟩ := id decimal.parts
  have quotes : ∀ d ∈ ['"', 'r', 'b', 'c', '\''], d.isDigit = false := by simp
  have other : ∀ d ∈ ['"', 'r', 'b', 'c', '\''], c ≠ d := by
    rintro d member rfl
    exact absurd first (by simp [quotes c member])
  simp only [List.forall_mem_cons] at other
  have noString : string? (c :: rest) = none := by simp [string?, other]
  have noCharacter : character? (c :: rest) = none := by simp [character?, other]
  rw [Literal.rest?, noString, noCharacter, decimal.float?]
  rfl

theorem Decimal.isInteger {text : String} {q : ℚ} (decimal : Decimal text.toList q) :
    isInteger text = false := by
  obtain ⟨c, rest, fraction, split, first, dropped, -⟩ := decimal.parts
  have kept : ∀ d ∈ ['x', 'o', 'b'], isDigitOrGap d = false ∧ d ≠ '.' := by simp [isDigitOrGap]
  have unmarked {d : Char} {others : List Char} (mark : d ∈ ['x', 'o', 'b']) :
      text.toList ≠ '0' :: d :: others := by
    intro marked
    obtain ⟨-, rfl⟩ := List.cons.inj (split.symm.trans marked)
    rw [List.dropWhile_cons_of_neg (by simp [(kept d mark).1])] at dropped
    exact (kept d mark).2 (List.cons.inj dropped).1
  unfold Literal.isInteger
  split
  · exact absurd ‹_› (unmarked (by decide))
  · exact absurd ‹_› (unmarked (by decide))
  · exact absurd ‹_› (unmarked (by decide))
  · rename_i own
    obtain ⟨rfl, rfl⟩ := List.cons.inj (split.symm.trans own)
    rw [dropped]
    exact Bool.and_false _
  · rfl

end Literal

/-! ### Numerals of hundredths -/

namespace Channel

/-- A number of hundredths between none and all of them, and how it is written. -/
inductive Numeral : Nat → List Char → Prop where
  | zero : Numeral 0 ['0', '.', '0']
  | one : Numeral 100 ['1', '.', '0']
  | tenths {t : Nat} (some : 0 < t) (small : t < 10) : Numeral (10 * t) ['0', '.', t.digitChar]
  | hundredths {t u : Nat} (tens : t < 10) (some : 0 < u) (small : u < 10) :
      Numeral (10 * t + u) ['0', '.', t.digitChar, u.digitChar]

theorem digitChar_spec {d : Nat} (small : d < 10) :
    d.digitChar.isDigit = true ∧ d.digitChar ≠ '_' ∧ Quoted.hexDigit? d.digitChar = some d := by
  have table : ∀ d < 10, d.digitChar.isDigit = true ∧ d.digitChar ≠ '_' ∧
      Quoted.hexDigit? d.digitChar = some d := by decide
  exact table d small

theorem Numeral.decimal {k : Nat} {text : List Char} (numeral : Numeral k text) :
    Literal.Decimal text (k / 100) := by
  cases numeral with
  | zero => exact ⟨['0'], ['0'], 0, 0, rfl, by simp, by simp, by simp, by simp, rfl, rfl,
      by norm_num⟩
  | one => exact ⟨['1'], ['0'], 1, 0, rfl, by simp, by simp, by simp, by simp, rfl, rfl,
      by norm_num⟩
  | @tenths t some small =>
      obtain ⟨digit, proper, value⟩ := digitChar_spec small
      refine ⟨['0'], [t.digitChar], 0, t, rfl, by simp, by simp, by simp, by simpa, rfl, ?_, ?_⟩
      · simp [Literal.value?.digitsValue, proper, value, small]
      · push_cast
        simp only [List.length_singleton]
        ring
  | @hundredths t u tens some small =>
      obtain ⟨digit, proper, value⟩ := digitChar_spec tens
      obtain ⟨digit', proper', value'⟩ := digitChar_spec small
      refine ⟨['0'], [t.digitChar, u.digitChar], 0, 10 * t + u, rfl, by simp, by simp, by simp,
        by simp [digit, digit'], rfl, ?_, ?_⟩
      · simp [Literal.value?.digitsValue, proper, value, tens, proper', value', small]
      · push_cast
        simp only [List.length_cons, List.length_nil]
        ring

/-- The hundredths with no more digits than they need. -/
def plain (k : Nat) : List Char :=
  if k % 100 = 0 then [(k / 100).digitChar]
  else if k % 10 = 0 then ['0', '.', (k / 10).digitChar]
  else ['0', '.', (k / 10).digitChar, (k % 10).digitChar]

/-- Hundredths are printed with no more digits than they need. -/
theorem text_hundredths {k : Nat} (most : k ≤ 100) :
    (Layout.display.text ((Binary64.ofRatio false k 1).divNat 100)).toList = plain k := by
  have table : ∀ k < 101,
      (Layout.display.text ((Binary64.ofRatio false k 1).divNat 100)).toList = plain k := by
    decide +kernel
  exact table k (by omega)

theorem numeral_plain {k : Nat} (most : k ≤ 100) :
    Numeral k (plain k ++ if 100 ∣ k then ['.', '0'] else []) := by
  unfold plain
  split
  · rename_i whole
    rw [if_pos (Nat.dvd_of_mod_eq_zero whole)]
    obtain rfl | rfl : k = 0 ∨ k = 100 := by omega
    · exact .zero
    · exact .one
  · rename_i parts
    rw [if_neg (fun whole => parts (Nat.mod_eq_zero_of_dvd whole)), List.append_nil]
    split
    · have exact : 10 * (k / 10) = k := by omega
      have numeral := Numeral.tenths (t := k / 10) (by omega) (by omega)
      rwa [exact] at numeral
    · have exact : 10 * (k / 10) + k % 10 = k := by omega
      have numeral := Numeral.hundredths (t := k / 10) (u := k % 10) (by omega) (by omega)
        (by omega)
      rwa [exact] at numeral

/-! ### The nearest hundredth -/

/-- The hundredths nearest to a byte over 255. -/
def hundredths (byte : Nat) : Nat := (40 * byte + 51) / 102

theorem hundredths_le {byte : Nat} (small : byte < 256) : hundredths byte ≤ 100 := by
  unfold hundredths
  omega

/-- There is never a tie: the distance to the nearest hundredth is an even number of 102nds. -/
theorem hundredths_near (byte : Nat) :
    |(100 * byte / 255 : ℚ) - hundredths byte| ≤ 1 / 2 - 1 / 102 := by
  have above : 40 * byte ≤ 102 * hundredths byte + 50 := by
    unfold hundredths
    omega
  have below : 102 * hundredths byte ≤ 40 * byte + 50 := by
    unfold hundredths
    omega
  have above' : (40 * byte : ℚ) ≤ 102 * hundredths byte + 50 := by exact_mod_cast above
  have below' : (102 * hundredths byte : ℚ) ≤ 40 * byte + 50 := by exact_mod_cast below
  rw [abs_le]
  constructor <;> linarith

/-- A number that is closer than a half to an integer is closer to it than to all others. -/
theorem nearest_of_lt_half {x : ℚ} {k : ℤ} (near : |x - k| < 1 / 2) (other : ℤ)
    (different : other ≠ k) : |x - k| < |x - other| := by
  have apart : (1 : ℚ) ≤ |(k : ℚ) - other| := by
    exact_mod_cast Int.one_le_abs (sub_ne_zero.mpr different.symm)
  have between := abs_sub_le (k : ℚ) x other
  rw [abs_sub_comm (k : ℚ) x] at between
  linarith

/-- In code, a channel in hundredths is the nearest hundredth. -/
theorem rounded_ofByte {byte : Nat} (small : byte < 256) :
    rounded (ofByte byte) = (Binary64.ofRatio false (hundredths byte) 1).divNat 100 := by
  have near := hundredths_near byte
  rw [rounded, round_mulNat_ofByte (n := hundredths byte) small (by decide) (by decide)]
  refine le_trans ?_ (near.trans (by norm_num))
  norm_num

theorem text_ofByte {byte : Nat} (small : byte < 256) :
    (text (ofByte byte)).toList = plain (hundredths byte) := by
  rw [text, rounded_ofByte small, text_hundredths (hundredths_le small)]

/-- A fraction is added to whole numbers only. -/
theorem literal_ofByte {byte : Nat} (small : byte < 256) :
    literal (ofByte byte) =
      text (ofByte byte) ++ if 100 ∣ hundredths byte then ".0" else "" := by
  have table : ∀ k < 101, (plain k).contains '.' = decide (¬ 100 ∣ k) := by decide
  have most := hundredths_le small
  unfold literal
  simp only [text_ofByte small, table _ (Nat.lt_succ_of_le most), decide_not, Bool.not_eq_true',
    decide_eq_false_iff_not, ite_not]
  split
  · rfl
  · exact (String.append_empty).symm

/-- The text is the float literal of `k` hundredths, and they are the hundredths nearest to the
byte over 255. -/
structure Spells (byte k : Nat) (own : String) : Prop where
  nearest : ∀ other : ℤ, other ≠ k →
    |(100 * byte / 255 : ℚ) - k| < |(100 * byte / 255 : ℚ) - other|
  numeral : Numeral k own.toList
  value : Literal.Decimal own.toList (k / 100)
  bounded : 0 ≤ (k / 100 : ℚ) ∧ (k / 100 : ℚ) ≤ 1
  close : |(k / 100 : ℚ) - byte / 255| ≤ 1 / 200
  formatted : own = text (ofByte byte) ++ if 100 ∣ k then ".0" else ""
  float : Literal.float? own.toList = some []
  literal : Literal.rest? own.toList = some []
  fractional : Literal.isInteger own = false

theorem spells_literal_ofByte {byte : Nat} (small : byte < 256) :
    Spells byte (hundredths byte) (Channel.literal (ofByte byte)) := by
  have near := hundredths_near byte
  have numeral : Numeral (hundredths byte) (Channel.literal (ofByte byte)).toList := by
    have found := numeral_plain (hundredths_le small)
    rw [literal_ofByte small, String.toList_append, text_ofByte small]
    split at found <;> rename_i whole
    · rwa [if_pos whole]
    · rwa [if_neg whole]
  have decimal := numeral.decimal
  refine ⟨fun other different => ?_, numeral, decimal, ?_, ?_, literal_ofByte small,
    decimal.float?, decimal.rest?, decimal.isInteger⟩
  · have strictly : |(100 * byte / 255 : ℚ) - (hundredths byte : ℤ)| < 1 / 2 :=
      lt_of_le_of_lt near (by norm_num)
    exact nearest_of_lt_half strictly other different
  · have most : (hundredths byte : ℚ) ≤ 100 := by exact_mod_cast hundredths_le small
    exact ⟨by positivity, by linarith⟩
  · rw [abs_le] at near ⊢
    constructor <;> linarith

/-- Larger bytes do not have smaller literals. -/
theorem Spells.monotone {low high k l : Nat} {own other : String} (first : Spells low k own)
    (second : Spells high l other) (ordered : low ≤ high) : k ≤ l := by
  by_contra reversed
  have less : (l : ℚ) + 1 ≤ k := by exact_mod_cast Nat.lt_of_not_le reversed
  have bytes : (low : ℚ) ≤ high := by exact_mod_cast ordered
  have closer := first.nearest l (by omega)
  have closer' := second.nearest k (by omega)
  rw [← sq_lt_sq] at closer closer'
  push_cast at closer closer'
  nlinarith

end Channel

/-! ### The call of a color -/

namespace Color

theorem chooseArguments_of_chosen {arguments : List Argument} {space : Option Expr}
    {literal : Expr} (chosen : Chosen (arguments.map (·.expr)) space literal) :
    chooseArguments arguments = some (space, literal) := by
  match arguments with
  | [] => cases chosen
  | [only] =>
      cases chosen
      rfl
  | first :: second :: rest =>
      cases chosen
      rfl

/-- The channels of a color literal are written as the decimals of two places nearest to its bytes
over 255, red before green before blue. Larger bytes do not have smaller decimals. -/
theorem channels_spelled (options : Options) (invocation : Invocation) (context : Context)
    {space : Option Expr} {literal : Expr} {text : String} {place : Span}
    (chosen : Chosen (invocation.arguments.map (·.expr)) space literal)
    (integer : literal.IsInteger text place) (form : Rgb.SixDigits text) :
    (∃ red green blue r g b redText greenText blueText,
      Rgb.Writes text red green blue ∧ Channel.Spells red r redText ∧
      Channel.Spells green g greenText ∧ Channel.Spells blue b blueText ∧
      ((Builtin.color.expand options invocation).runIn context).1 =
        .ok (.expr (.call (.path (options.module.extend ["Color", "new"]))
          [.mk (space.getD (.path (options.module.extend ["ColorSpace", "Srgb"])))
              (Tokens.symbol ","),
            .mk (.literal (.literal redText place)) (Tokens.symbol ","),
            .mk (.literal (.literal greenText place)) (Tokens.symbol ","),
            .mk (.literal (.literal blueText place)) []]
          .callSite))) ∧
    ∀ low high k l own other, Channel.Spells low k own → Channel.Spells high l other →
      low ≤ high → (k / 100 : ℚ) ≤ l / 100 := by
  constructor
  · obtain ⟨red, green, blue, -, writes⟩ := Rgb.exists_bytes_of_sixDigits form
    have read : Rgb.ofLiteral? text = some (Rgb.ofBytes red green blue) :=
      Rgb.ofLiteral?_eq_some_iff.mpr ⟨red, green, blue, writes, rfl⟩
    refine ⟨red, green, blue, _, _, _, _, _, _, writes,
      Channel.spells_literal_ofByte writes.red_lt, Channel.spells_literal_ofByte writes.green_lt,
      Channel.spells_literal_ofByte writes.blue_lt, ?_⟩
    simp only [Builtin.runIn_expand, Builtin.outcome, outcome, verdict,
      chooseArguments_of_chosen chosen, Expr.integerLiteral?_eq_some_iff.mpr integer, read]
    rfl
  · intro low high k l own other first second ordered
    have counts : (k : ℚ) ≤ l := by exact_mod_cast first.monotone second ordered
    linarith

/-- A space and a literal in an invisible group, its digits in both cases: `::Space, 0x00fF7b`. -/
def mixedCase : Invocation where
  items := [(⟨none, .path (.absolute ["Space"])⟩, Tokens.symbol ","),
    (⟨none, .hidden (.literal (.literal "0x00fF7b" .callSite)) .callSite⟩, [])]
  trailing := none

theorem channels_spelled_mixedCase :
    Rgb.SixDigits "0x00fF7b" ∧
    ∃ r g b redText greenText blueText,
      Channel.Spells 0 r redText ∧ Channel.Spells 255 g greenText ∧
      Channel.Spells 123 b blueText ∧
      ((Builtin.color.expand {} mixedCase).runIn {}).1 =
        .ok (.expr (.call (.path (.absolute ["freestanding", "Color", "new"]))
          [.mk (.path (.absolute ["Space"])) (Tokens.symbol ","),
            .mk (.literal (.literal redText .callSite)) (Tokens.symbol ","),
            .mk (.literal (.literal greenText .callSite)) (Tokens.symbol ","),
            .mk (.literal (.literal blueText .callSite)) []]
          .callSite)) := by
  have bytes : Rgb.bytes? "0x00fF7b".toList = some (0, 255, 123) := rfl
  have form : Rgb.SixDigits "0x00fF7b" := Rgb.sixDigits_of_bytes? bytes
  have writes : Rgb.Writes "0x00fF7b" 0 255 123 := ⟨form, rfl, by decide, by decide, by decide⟩
  obtain ⟨⟨_, _, _, r, g, b, redText, greenText, blueText, writes', red, green, blue, run⟩, -⟩ :=
    channels_spelled {} mixedCase {} (.behindSpace _ _ []) (.hidden (.literal (by decide))) form
  obtain ⟨rfl, rfl, rfl⟩ := writes.unique writes'
  exact ⟨form, r, g, b, redText, greenText, blueText, red, green, blue, run⟩

end Color

end MacroExpansion
