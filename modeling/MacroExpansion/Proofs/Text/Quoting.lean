import MacroExpansion.Text.Quoted
import Mathlib.Tactic.SplitIfs

/-!
# Quoted text is read back

The reader of quoted text goes from state to state and finds characters out on its way; `Run` is
such a way. The spelling of a character is a way from plain text to plain text that finds out this
one character, so the spelling of a text finds out the text, whatever the text is. A way never
passes a quote that would end the text, so the quote behind a spelled text is the one that ends it.

What follows a zero decides how it is spelled, but not how it is read: both spellings are complete.
-/

namespace MacroExpansion

namespace Quoted

/-- Reading these characters leads from one state to another and finds out a text. -/
inductive Run (kind : Kind) : Reading → List Char → List Char → Reading → Prop where
  | done (reading : Reading) : Run kind reading [] [] reading
  | step {reading next last : Reading} {c : Char} {chars rest text : List Char}
      (one : read kind reading c = some (next, chars)) (more : Run kind next rest text last) :
      Run kind reading (c :: rest) (chars ++ text) last

/-- A quote that may end the text has no other meaning. -/
theorem read_quote (kind : Kind) {reading : Reading} (ends : reading.mayEnd = true) :
    read kind reading '"' = none := by
  cases reading with
  | text => rfl
  | blanks => rfl
  | _ => cases ends

namespace Run

variable {kind : Kind} {first next last : Reading} {c : Char} {front text : List Char}

theorem append (run : Run kind first front text next) {back more : List Char}
    (behind : Run kind next back more last) :
    Run kind first (front ++ back) (text ++ more) last := by
  induction run with
  | done reading => exact behind
  | step one _ ih =>
      rw [List.append_assoc]
      exact .step one (ih behind)

/-- A character that finds nothing out may come first. -/
theorem silent (one : read kind first c = some (next, [])) (run : Run kind next front text last) :
    Run kind first (c :: front) text last := .step one run

/-- A character that finds out another one. -/
theorem single {d : Char} (one : read kind first c = some (next, [d])) :
    Run kind first [c] [d] next := .step one (.done next)

theorem decodeFrom_append (run : Run kind first front text next) (back : List Char) :
    decodeFrom kind first (front ++ back) = (decodeFrom kind next back).map (text ++ ·) := by
  induction run with
  | done reading => simp
  | step one _ ih =>
      rw [List.cons_append, decodeFrom, one, Option.bind_some]
      dsimp only
      rw [ih, Option.map_map]
      simp [Function.comp_def, List.append_assoc]

theorem afterQuote?_append (run : Run kind first front text next) (back : List Char) :
    afterQuote? kind first (front ++ back) = afterQuote? kind next back := by
  induction run with
  | done reading => rfl
  | @step reading next last c chars rest text one more ih =>
      -- A quote that may end the text cannot be read any further, so it is not among the steps.
      have goesOn : (c = '"' && reading.mayEnd) = false := by
        rw [Bool.and_eq_false_imp, decide_eq_true_eq]
        rintro rfl
        refine Bool.eq_false_iff.mpr fun ends => ?_
        rw [read_quote kind ends] at one
        cases one
      rw [List.cons_append, afterQuote?, goesOn, if_neg Bool.false_ne_true, one]
      exact ih

end Run

/-! ### The spelling of a character -/

theorem hexDigit?_digitChar {d : Nat} (small : d < 16) :
    hexDigit? d.digitChar = some d ∧ d.digitChar ≠ '\x7d' ∧ d.digitChar ≠ '_' := by
  have table : ∀ d < 16, hexDigit? d.digitChar = some d ∧ d.digitChar ≠ '\x7d' ∧
      d.digitChar ≠ '_' := by decide
  exact table d small

/-- One more hexadecimal digit of a number in braces. -/
theorem run_digit (kind : Kind) {value digits d : Nat} (room : digits < 6) (small : d < 16) :
    Run kind (.number value digits) [d.digitChar] [] (.number (16 * value + d) (digits + 1)) := by
  obtain ⟨value_eq, closes, gap⟩ := hexDigit?_digitChar small
  refine .silent ?_ (.done _)
  simp [read, readNumber, closes, gap, value_eq, room]

/-- The digits of a number in braces, of which at most six are read. -/
theorem run_digits (kind : Kind) (n : Nat) (room : (Nat.toDigits 16 n).length ≤ 6) :
    Run kind (.number 0 0) (Nat.toDigits 16 n) [] (.number n (Nat.toDigits 16 n).length) := by
  induction n using Nat.strongRecOn with
  | ind n ih =>
      by_cases small : n < 16
      · rw [Nat.toDigits_of_lt_base small]
        have only : Run kind (.number 0 0) [n.digitChar] [] (.number (16 * 0 + n) (0 + 1)) :=
          run_digit kind (by omega) small
        simpa using only
      · have digits := Nat.toDigits_of_base_le (by decide) (Nat.le_of_not_lt small)
        rw [digits, List.length_append, List.length_singleton] at room ⊢
        have front := ih (n / 16) (by omega) (by omega)
        have last : Run kind (.number (n / 16) (Nat.toDigits 16 (n / 16)).length)
            [(n % 16).digitChar] []
            (.number (16 * (n / 16) + n % 16) ((Nat.toDigits 16 (n / 16)).length + 1)) :=
          run_digit kind (by omega) (Nat.mod_lt n (by decide))
        rw [Nat.div_add_mod] at last
        exact front.append last

theorem codePoint?_toNat (c : Char) : codePoint? c.toNat = some c := by
  have valid : c.toNat.isValidChar := c.valid
  rw [codePoint?, dif_pos valid]
  rfl

/-- Six hexadecimal digits are enough for every character. -/
theorem length_toDigits_le (c : Char) : (Nat.toDigits 16 c.toNat).length ≤ 6 := by
  rw [Nat.length_toDigits_le_iff (by decide) (by decide)]
  have valid : c.toNat.isValidChar := c.valid
  unfold Nat.isValidChar at valid
  omega

theorem run_byNumber (c : Char) : Run .text .text (byNumber c) [c] .text := by
  have digits := run_digits .text c.toNat (length_toDigits_le c)
  have closes : read .text (.number c.toNat (Nat.toDigits 16 c.toNat).length) '\x7d' =
      some (.text, [c]) := by
    simp [read, readNumber, codePoint?_toNat, found]
  have inside : Run .text (.number 0 0) (Nat.toDigits 16 c.toNat ++ ['\x7d']) [c] .text :=
    digits.append (.single closes)
  exact .silent rfl (.silent rfl (.silent rfl inside))

/-- An escape of a backslash and one character. -/
theorem run_escape {c d : Char} (one : readEscape .text c = some (.text, [d])) :
    Run .text .text ['\\', c] [d] .text := .silent rfl (.single one)

/-- Every spelling of a character stands for the character. -/
theorem run_spell (style : Style) (c : Char) (rest : List Char) :
    Run .text .text (spell style c rest) [c] .text := by
  unfold spell
  split_ifs with zero digit tab feed carriage backslash quote unprintable
  · subst zero
    exact .silent rfl (.silent rfl (.silent rfl (.single rfl)))
  · subst zero
    exact run_escape rfl
  · subst tab
    exact run_escape rfl
  · subst feed
    exact run_escape rfl
  · subst carriage
    exact run_escape rfl
  · subst backslash
    exact run_escape rfl
  · subst quote
    exact run_escape rfl
  · exact run_byNumber c
  · refine .single ?_
    simp [read, readText, backslash, carriage, quote, found]

/-! ### The spelling of a text -/

theorem run_encode (style : Style) (text : List Char) :
    Run .text .text (encode style text) text .text := by
  induction text with
  | nil => exact .done _
  | cons c text ih => exact (run_spell style c text).append ih

/-- A spelled text is read as itself. -/
theorem decode_encode (style : Style) (text : List Char) :
    decode (encode style text) = some text := by
  have read := (run_encode style text).decodeFrom_append []
  simpa [decode, decodeFrom, Reading.mayEnd] using read

/-- The closing quote of a spelled text is where the text ends. -/
theorem afterQuote?_encode (style : Style) (text back : List Char) :
    afterQuote? .text .text (encode style text ++ '"' :: back) = some back := by
  rw [(run_encode style text).afterQuote?_append]
  rfl

theorem toList_quote (style : Style) (text : String) :
    (quote style text).toList = '"' :: (encode style text.toList ++ ['"']) := by
  rw [quote, String.toList_ofList, List.cons_append]

/-- A quoted text stands for the text. -/
theorem unquote?_quote (style : Style) (text : String) :
    unquote? (quote style text) = some text := by
  simp [unquote?, toList_quote, decode_encode]

/-- Different texts are quoted differently. -/
theorem quote_injective (style : Style) : Function.Injective (quote style) := by
  intro text other same
  have read := unquote?_quote style text
  rw [same, unquote?_quote style other, Option.some.injEq] at read
  exact read.symm

end Quoted

end MacroExpansion
