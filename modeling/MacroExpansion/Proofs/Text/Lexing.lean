import MacroExpansion.Proofs.Color.ChannelText
import MacroExpansion.Proofs.Text.Quoting
import MacroExpansion.Token.Lexer

/-!
# Single tokens in a text

What is printed for a word, a number, a quoted text or punctuation is read as one lexeme with the
same characters, wherever it stands: nothing of it is left over and nothing of what follows is taken
in. All that matters of what follows is where it begins, and the printer puts a space or a closing
delimiter behind every token, except between joint punctuation.
-/

namespace MacroExpansion

namespace Identifier

/-- A character that opens identifiers is no other one that does not. -/
theorem ne_of_isStart {c d : Char} (start : isStart c = true) (other : isStart d = false) :
    c ≠ d := by
  rintro rfl
  exact Bool.eq_false_iff.mp other start

/-- A character of an identifier is no other one that none has. -/
theorem ne_of_isContinue {c d : Char} (inside : isContinue c = true)
    (other : isContinue d = false) : c ≠ d := by
  rintro rfl
  exact Bool.eq_false_iff.mp other inside

theorem isDigit_of_isStart {c : Char} (start : isStart c = true) : c.isDigit = false :=
  Bool.eq_false_iff.mpr fun digit =>
    Bool.eq_false_iff.mp (Literal.isStart_of_isDigit digit) start

/-- No character outside ASCII opens identifiers and is a blank. -/
theorem disjoint_blanks : ∀ range ∈ IdentStart.ranges, ∀ blank ∈ Blank.ranges,
    range.2 < blank.1 ∨ blank.2 < range.1 := by decide +kernel

theorem isBlank_of_isStart {c : Char} (start : isStart c = true) : Blank.isBlank c = false := by
  refine Bool.eq_false_iff.mpr fun blank => ?_
  unfold isStart at start
  unfold Blank.isBlank at blank
  split at start <;> rename_i ascii
  · have table : ∀ n < 128, ((Char.ofNat n).isAlpha || Char.ofNat n == '_') = true →
        (Char.ofNat n == ' ' || (9 ≤ n && n ≤ 13)) = false := by decide
    rw [if_pos ascii] at blank
    rw [← Char.ofNat_toNat c] at start
    have excluded := table c.toNat ascii start
    rw [Char.ofNat_toNat] at excluded
    exact Bool.eq_false_iff.mp excluded blank
  · rw [if_neg ascii] at blank
    obtain ⟨range, known, above, below⟩ := (CodeRanges.has_iff _ c).mp start
    obtain ⟨other, listed, least, most⟩ := (CodeRanges.has_iff _ c).mp blank
    have apart := disjoint_blanks range known other listed
    omega

end Identifier

namespace Lexer

/-! ### What stands behind a token -/

/-- Nothing, a space or the end of a round or square group. -/
def Stops (back : List Char) : Prop :=
  ∀ c ∈ back.head?, c = ' ' ∨ c = ')' ∨ c = ']'

theorem Stops.nil : Stops [] := by simp [Stops]

theorem Stops.space (back : List Char) : Stops (' ' :: back) := by simp [Stops]

theorem Stops.closing {c : Char} (closes : c = ')' ∨ c = ']') (back : List Char) :
    Stops (c :: back) := by
  intro d first
  obtain rfl : c = d := Option.some.inj first
  exact .inr closes

/-- A property of the characters that stop a token is one of the first character behind it. -/
theorem Stops.head {back : List Char} (stops : Stops back) (p : Char → Prop)
    (all : p ' ' ∧ p ')' ∧ p ']') : ∀ c ∈ back.head?, p c := by
  intro c first
  obtain rfl | rfl | rfl := stops c first
  · exact all.1
  · exact all.2.1
  · exact all.2.2

/-- What stops a token belongs to no identifier. -/
theorem Stops.split? {back : List Char} (stops : Stops back) : Identifier.split? back = none := by
  cases back with
  | nil => rfl
  | cons c back =>
      have other := stops.head (fun c => Identifier.isStart c = false) (by decide) c rfl
      rw [Identifier.split?, if_neg (Bool.eq_false_iff.mp other)]

theorem Stops.afterSuffix {back : List Char} (stops : Stops back) :
    Literal.afterSuffix back = back := by
  rw [Literal.afterSuffix, stops.split?]

theorem Stops.dropWhile {back : List Char} (stops : Stops back) (p : Char → Bool)
    (none : p ' ' = false ∧ p ')' = false ∧ p ']' = false) : back.dropWhile p = back := by
  cases back with
  | nil => rfl
  | cons c back =>
      have other := stops.head (fun c => p c = false) none c rfl
      rw [List.dropWhile_cons, if_neg (Bool.eq_false_iff.mp other)]

/-- The characters are read as one lexeme in front of everything that stops a token. -/
structure Lexes (chunk : List Char) (lexeme : Lexeme) : Prop where
  filled : chunk ≠ []
  front : ∀ c ∈ chunk.head?, c ≠ '/'
  seen : ∀ back, Stops back → dropBlank? (chunk ++ back) = none
  read : ∀ back, Stops back → lexeme? (chunk ++ back) = some (lexeme, back)

theorem consumed_append (chunk back : List Char) : consumed (chunk ++ back) back = chunk := by
  simp [consumed]

theorem dropBlank?_eq_none {c : Char} (slash : c ≠ '/') (blank : Blank.isBlank c = false)
    (rest : List Char) : dropBlank? (c :: rest) = none := by
  simp [dropBlank?, isLineComment, isBlockComment, slash, blank]

theorem docComment?_eq_none {c : Char} (slash : c ≠ '/') (rest : List Char) :
    docComment? (c :: rest) = none := by
  simp [docComment?, slash]

/-- A character that neither documents nor delimits begins a leaf. -/
theorem lexeme?_eq_leaf? {c : Char} (slash : c ≠ '/') (opens : opens? c = none)
    (closes : closes? c = none) (rest : List Char) : lexeme? (c :: rest) = leaf? (c :: rest) := by
  simp [lexeme?, docComment?_eq_none slash, opens, closes]

/-- Where a literal begins, it is read up to its end. -/
theorem leaf?_of_rest? {chunk back : List Char}
    (literal : Literal.rest? (chunk ++ back) = some back) :
    leaf? (chunk ++ back) = some (.literal chunk, back) := by
  unfold leaf?
  rw [literal]
  dsimp only
  rw [consumed_append]

/-! ### Literals -/

/-- A quoted text is read as one literal, up to its own closing quote. -/
theorem lexes_quote (text : String) :
    Lexes (Quoted.quote .literal text).toList (.literal (Quoted.quote .literal text).toList) := by
  have chars := Quoted.toList_quote .literal text
  refine ⟨by simp [chars], by simp [chars], fun back stops => ?_, fun back stops => ?_⟩
  · rw [chars]
    exact dropBlank?_eq_none (by decide) (by decide) _
  · have literal : Literal.rest? ((Quoted.quote .literal text).toList ++ back) = some back := by
      rw [chars]
      simp [Literal.rest?, Literal.string?, Literal.cooked?, Quoted.afterQuote?_encode,
        stops.afterSuffix]
    rw [← leaf?_of_rest? literal, chars]
    exact lexeme?_eq_leaf? (by decide) rfl rfl _

/-- A table of characters is checked one by one. -/
theorem forall_of_all {p : Char → Prop} [DecidablePred p] {chars : List Char}
    (all : chars.all (fun c => p c) = true) : ∀ c ∈ chars, p c := by
  simpa using all

/-- The decimal digits, to go through them. -/
def decimals : List Char := ['0', '1', '2', '3', '4', '5', '6', '7', '8', '9']

theorem mem_decimals {c : Char} (digit : c.isDigit = true) : c ∈ decimals := by
  have table : ∀ n < 128, (Char.ofNat n).isDigit = true → Char.ofNat n ∈ decimals := by decide
  have ascii : c.toNat < 128 := by
    simp only [Char.isDigit, Bool.and_eq_true, decide_eq_true_eq, UInt32.le_iff_toNat_le] at digit
    exact Nat.lt_of_le_of_lt digit.2 (by decide)
  rw [← Char.ofNat_toNat c] at digit ⊢
  exact table c.toNat ascii digit

/-- The digits of a number are all there is to read of it. -/
theorem digits?_append {digits back : List Char} (all : ∀ c ∈ digits, c.isDigit = true)
    (stops : Stops back) {empty : Bool} (some : digits = [] → empty = false) :
    Literal.digits? 10 empty (digits ++ back) = Option.some back := by
  induction digits generalizing empty with
  | nil =>
      cases back with
      | nil => rw [some rfl]; rfl
      | cons c back =>
          have other := stops.head (fun c => c.isDigit = false ∧ c ≠ '_' ∧
            Quoted.hexDigit? c = none) (by decide) c rfl
          simp [Literal.digits?, other, some rfl]
  | cons c digits ih =>
      have digit := all c (List.mem_cons_self ..)
      have small : ∀ c ∈ decimals, c.toNat - '0'.toNat < 10 := forall_of_all (by decide)
      rw [List.cons_append, Literal.digits?, if_pos digit, if_pos (small c (mem_decimals digit))]
      exact ih (fun d member => all d (List.mem_cons_of_mem c member)) fun _ => rfl

section Digits

variable {c : Char} {digits back : List Char} (digit : c.isDigit = true)
  (behind : ∀ d ∈ digits, d.isDigit = true) (stops : Stops back)

include digit behind stops

/-- Digits without a point or an exponent are no float. -/
theorem float?_of_digits : Literal.float? (c :: (digits ++ back)) = none := by
  have dropped : (digits ++ back).dropWhile Literal.isDigitOrGap = back := by
    rw [Literal.dropWhile_digits behind, stops.dropWhile _ (by decide)]
  have ends := stops.head (fun c => c ≠ '.' ∧ c ≠ 'e' ∧ c ≠ 'E') (by decide)
  rw [Literal.float?, Literal.floatDigits?, if_pos digit, dropped]
  cases back with
  | nil => rfl
  | cons d back => simp [ends d rfl]

/-- Digits are a decimal integer: what follows the first of them marks no other base. -/
theorem integer?_of_digits : Literal.integer? (c :: (digits ++ back)) = some back := by
  have all : ∀ d ∈ c :: digits, d.isDigit = true := List.forall_mem_cons.mpr ⟨digit, behind⟩
  have decimal : Literal.digits? 10 true (c :: (digits ++ back)) = some back :=
    digits?_append all stops (by simp)
  have closed : Literal.closeNumber? back = some back := by
    have ends := stops.head (fun c => Identifier.isContinue c = false) (by decide)
    rw [Literal.closeNumber?, stops.afterSuffix]
    cases back with
    | nil => rfl
    | cons d back => simp [ends d rfl]
  have marks : ∀ d ∈ decimals, d ≠ 'x' ∧ d ≠ 'o' ∧ d ≠ 'b' := forall_of_all (by decide)
  have unmarked : ∀ d ∈ (digits ++ back).head?, d ≠ 'x' ∧ d ≠ 'o' ∧ d ≠ 'b' := by
    cases digits with
    | nil => exact stops.head _ (by decide)
    | cons d digits =>
        intro e first
        obtain rfl : d = e := Option.some.inj first
        exact marks d (mem_decimals (behind d (List.mem_cons_self ..)))
  have next {d : Char} {more : List Char} (same : c :: (digits ++ back) = '0' :: d :: more) :
      d ≠ 'x' ∧ d ≠ 'o' ∧ d ≠ 'b' :=
    unmarked d (by rw [(List.cons.inj same).2]; rfl)
  rw [Literal.integer?, decimal]
  · exact closed
  · exact fun _ same => (next same).1 rfl
  · exact fun _ same => (next same).2.1 rfl
  · exact fun _ same => (next same).2.2 rfl

/-- Digits are one literal. -/
theorem rest?_of_digits : Literal.rest? (c :: (digits ++ back)) = some back := by
  have other : ∀ c ∈ decimals, c ≠ '"' ∧ c ≠ 'r' ∧ c ≠ 'b' ∧ c ≠ 'c' ∧ c ≠ '\'' :=
    forall_of_all (by decide)
  simp [Literal.rest?, Literal.string?, Literal.character?, other c (mem_decimals digit),
    float?_of_digits digit behind stops, integer?_of_digits digit behind stops]

end Digits

/-- A number is read as one literal. -/
theorem lexes_number (n : Nat) : Lexes (Nat.toDigits 10 n) (.literal (Nat.toDigits 10 n)) := by
  have all : ∀ c ∈ Nat.toDigits 10 n, c.isDigit = true := fun c member =>
    Nat.isDigit_of_mem_toDigits (by decide) (by decide) member
  obtain ⟨c, digits, chars⟩ := List.exists_cons_of_ne_nil (Nat.toDigits_ne_nil (n := n) (b := 10))
  rw [chars] at all ⊢
  obtain ⟨digit, behind⟩ := List.forall_mem_cons.mp all
  have table : ∀ c ∈ decimals, c ≠ '/' ∧ Blank.isBlank c = false ∧
      opens? c = none ∧ closes? c = none := forall_of_all (by decide)
  obtain ⟨slash, blank, opens, closes⟩ := table c (mem_decimals digit)
  refine ⟨List.cons_ne_nil _ _, by simpa using slash,
    fun back _ => dropBlank?_eq_none slash blank _, fun back stops => ?_⟩
  rw [← leaf?_of_rest? (rest?_of_digits digit behind stops)]
  exact lexeme?_eq_leaf? slash opens closes _

/-! ### Words -/

/-- Characters that neither quote nor fence nor end a character. -/
def Calm (text : List Char) : Prop :=
  ∀ c ∈ text.head?, c ≠ '"' ∧ c ≠ '#' ∧ c ≠ '\''

theorem Calm.append {text back : List Char} (inside : ∀ c ∈ text, Identifier.isContinue c = true)
    (stops : Stops back) : Calm (text ++ back) := by
  cases text with
  | nil => exact stops.head _ (by decide)
  | cons c text =>
      intro d first
      obtain rfl : c = d := Option.some.inj first
      have word := inside c (List.mem_cons_self ..)
      exact ⟨Identifier.ne_of_isContinue word (by decide),
        Identifier.ne_of_isContinue word (by decide), Identifier.ne_of_isContinue word (by decide)⟩

theorem Calm.rawFence? {text : List Char} (calm : Calm text) (hashes : Nat) :
    Literal.rawFence? hashes text = none := by
  cases text with
  | nil => rfl
  | cons c text =>
      obtain ⟨quote, hash, -⟩ := calm c rfl
      simp [Literal.rawFence?, quote, hash]

theorem digits?_eq_none {c : Char} (digit : c.isDigit = false) (rest : List Char) :
    Literal.digits? 10 true (c :: rest) = none := by
  have large : (Quoted.hexDigit? c).any (· < 10) = false := by
    unfold Quoted.hexDigit?
    split_ifs with decimal lower upper
    · exact absurd decimal (Bool.eq_false_iff.mp (by rw [← digit, Char.isDigit]; rfl))
    · simp
    · simp
    · rfl
  simp [Literal.digits?, digit, large]

/-- What is neither quoted nor a character nor begins with a digit is no literal. -/
theorem rest?_eq_none {c : Char} {rest : List Char} (string : Literal.string? (c :: rest) = none)
    (character : Literal.character? (c :: rest) = none) (digit : c.isDigit = false) :
    Literal.rest? (c :: rest) = none := by
  have float : Literal.float? (c :: rest) = none := by
    simp [Literal.float?, Literal.floatDigits?, digit]
  have zero (tail : List Char) : c :: rest ≠ '0' :: tail := by
    rintro same
    rw [(List.cons.inj same).1] at digit
    exact absurd digit (by decide)
  have integer : Literal.integer? (c :: rest) = none := by
    rw [Literal.integer?, digits?_eq_none digit]
    · rfl
    all_goals exact fun _ => zero _
  simp [Literal.rest?, string, character, float, integer]

/-- What begins like a word and has no quote behind the first letter is no character. -/
theorem character?_of_isStart {c : Char} {rest : List Char} (start : Identifier.isStart c = true)
    (quote : ∀ d ∈ rest.head?, d ≠ '\'') : Literal.character? (c :: rest) = none := by
  have single : c ≠ '\'' := Identifier.ne_of_isStart start (by decide)
  cases rest with
  | nil => simp [Literal.character?, single]
  | cons d rest => simp [Literal.character?, single, quote d rfl]

/-- An identifier is split off in front of everything that stops a token. -/
theorem split?_append {c : Char} {text back : List Char} (start : Identifier.isStart c = true)
    (inside : ∀ d ∈ text, Identifier.isContinue d = true) (stops : Stops back) :
    Identifier.split? (c :: (text ++ back)) = some (c :: text, back) := by
  have behind := stops.dropWhile Identifier.isContinue (by decide)
  have before : back.takeWhile Identifier.isContinue = [] := by
    have whole := List.takeWhile_append_dropWhile (p := Identifier.isContinue) (l := back)
    rw [behind] at whole
    exact List.append_left_eq_self.mp whole
  rw [Identifier.split?, if_pos start, List.takeWhile_append_of_pos inside,
    List.dropWhile_append_of_pos inside, behind, before, List.append_nil]

section Calm

variable {c : Char} {rest : List Char} (calm : Calm rest)
  (behind : ∀ tail, rest = 'r' :: tail → Calm tail)

include calm behind

theorem string?_of_calm (quote : c ≠ '"') : Literal.string? (c :: rest) = none := by
  have raw (kind : Quoted.Kind) {text : List Char} (calm : Calm text) :
      Literal.raw? kind text = none := by
    rw [Literal.raw?, calm.rawFence?]
    rfl
  unfold Literal.string?
  split
  · exact absurd (List.cons.inj ‹_›).1 quote
  · rename_i same
    rw [← (List.cons.inj same).2]
    exact raw _ calm
  · rename_i same
    exact absurd rfl (calm '"' (by rw [(List.cons.inj same).2]; rfl)).1
  · rename_i same
    exact raw _ (behind _ (List.cons.inj same).2)
  · rename_i same
    exact absurd rfl (calm '"' (by rw [(List.cons.inj same).2]; rfl)).1
  · rename_i same
    exact raw _ (behind _ (List.cons.inj same).2)
  · rfl

theorem beginsQuoted_of_calm : beginsQuoted (c :: rest) = false := by
  cases rest with
  | nil => simp [beginsQuoted]
  | cons d rest =>
      obtain ⟨quote, hash, single⟩ := calm d rfl
      by_cases fence : d = 'r'
      · subst fence
        have calm := behind rest rfl
        cases rest with
        | nil => simp [beginsQuoted]
        | cons e rest => simp [beginsQuoted, calm e rfl]
      · simp [beginsQuoted, quote, hash, single, fence]

end Calm

/-- The characters are one word, raw or not. -/
def IsWord (text : List Char) : Prop := word? text = some (text, [])

instance (text : List Char) : Decidable (IsWord text) := inferInstanceAs (Decidable (_ = _))

/-- What a text that is split off as a whole consists of. -/
theorem inside_of_split? {text : List Char} (whole : Identifier.split? text = some (text, [])) :
    ∃ c rest, text = c :: rest ∧ Identifier.isStart c = true ∧
      ∀ d ∈ rest, Identifier.isContinue d = true := by
  cases text with
  | nil => cases whole
  | cons c rest =>
      rw [Identifier.split?] at whole
      split_ifs at whole with start
      refine ⟨c, rest, rfl, start, fun d member => ?_⟩
      simp only [Option.some.injEq, Prod.mk.injEq, List.cons.injEq, true_and] at whole
      exact List.all_eq_true.mp List.all_takeWhile d (whole.1.symm ▸ member)

/-- A word is an identifier, or one behind the mark of raw words. -/
theorem IsWord.shape {text : List Char} (word : IsWord text) :
    (∃ c rest, text = c :: rest ∧ Identifier.isStart c = true ∧
      ∀ d ∈ rest, Identifier.isContinue d = true) ∨
    ∃ c rest, text = 'r' :: '#' :: c :: rest ∧ Identifier.isStart c = true ∧
      (∀ d ∈ rest, Identifier.isContinue d = true) ∧
      ["_", "super", "self", "Self", "crate"].contains (String.ofList (c :: rest)) = false := by
  unfold IsWord word? at word
  split at word
  · rename_i name
    obtain ⟨⟨found, left⟩, split, proper⟩ := Option.bind_eq_some_iff.mp word
    simp only [Option.ite_none_left_eq_some, Option.some.injEq, Prod.mk.injEq, List.cons.injEq,
      true_and, Bool.not_eq_true] at proper
    obtain ⟨proper, rfl, rfl⟩ := proper
    obtain ⟨c, rest, rfl, start, inside⟩ := inside_of_split? split
    exact .inr ⟨c, rest, rfl, start, inside, proper⟩
  · exact .inl (inside_of_split? word)

/-- The punctuation that begins neither a comment nor a character, to go through it. -/
def marks : List Char :=
  ['~', '!', '@', '#', '$', '%', '^', '&', '*', '-', '=', '+', '|', ';', ':', ',', '<', '.', '>',
    '?']

theorem mem_marks {c : Char} (punct : isPunct c = true) : c ∈ '/' :: '\'' :: marks := by
  have whole : "~!@#$%^&*-=+|;:,<.>/?'".toList =
      ['~', '!', '@', '#', '$', '%', '^', '&', '*', '-', '=', '+', '|', ';', ':', ',', '<', '.',
        '>', '/', '?', '\''] := by decide
  rw [isPunct, whole, List.contains_iff_mem] at punct
  have table : ∀ c ∈ ['~', '!', '@', '#', '$', '%', '^', '&', '*', '-', '=', '+', '|', ';', ':',
      ',', '<', '.', '>', '/', '?', '\''], c ∈ '/' :: '\'' :: marks := forall_of_all (by decide)
  exact table c punct

/-- What begins like a word and is no literal is read as the word that it begins with. -/
theorem lexeme?_of_word? {c : Char} {rest text back : List Char}
    (start : Identifier.isStart c = true) (literal : Literal.rest? (c :: rest) = none)
    (quoted : beginsQuoted (c :: rest) = false) (word : word? (c :: rest) = some (text, back)) :
    lexeme? (c :: rest) = some (.word text, back) := by
  have slash : c ≠ '/' := Identifier.ne_of_isStart start (by decide)
  have single : c ≠ '\'' := Identifier.ne_of_isStart start (by decide)
  have opens : opens? c = none := by
    unfold opens?
    split <;> first | rfl | exact absurd start (by decide)
  have closes : closes? c = none := by
    unfold closes?
    split <;> first | rfl | exact absurd start (by decide)
  have punct : beginsWithPunct (c :: rest) = false := by
    have table : ∀ c ∈ '/' :: '\'' :: marks, Identifier.isStart c = false :=
      forall_of_all (by decide)
    have other : isPunct c = false := Bool.eq_false_iff.mpr fun punct =>
      Bool.eq_false_iff.mp (table c (mem_marks punct)) start
    simp [beginsWithPunct, slash, other]
  rw [lexeme?_eq_leaf? slash opens closes]
  unfold leaf?
  rw [literal]
  simp [single, punct, quoted, word]

section Words

variable {c : Char} {text back : List Char} (start : Identifier.isStart c = true)
  (inside : ∀ d ∈ text, Identifier.isContinue d = true) (stops : Stops back)

include start inside stops

theorem lexeme?_identifier :
    lexeme? (c :: (text ++ back)) = some (.word (c :: text), back) := by
  have calm := Calm.append inside stops
  have behind : ∀ tail, text ++ back = 'r' :: tail → Calm tail := by
    intro tail same
    cases text with
    | nil => exact absurd same (by rintro rfl; exact absurd (stops 'r' rfl) (by decide))
    | cons d text =>
        rw [← (List.cons.inj same).2]
        exact .append (fun e member => inside e (List.mem_cons_of_mem d member)) stops
  have literal := rest?_eq_none
    (string?_of_calm calm behind (Identifier.ne_of_isStart start (by decide)))
    (character?_of_isStart start fun d first => (calm d first).2.2)
    (Identifier.isDigit_of_isStart start)
  refine lexeme?_of_word? start literal (beginsQuoted_of_calm calm behind) ?_
  unfold word?
  split
  · rename_i same
    exact absurd rfl (calm '#' (by rw [(List.cons.inj same).2]; rfl)).2.1
  · exact split?_append start inside stops

theorem lexeme?_raw
    (proper : ["_", "super", "self", "Self", "crate"].contains (String.ofList (c :: text)) =
      false) :
    lexeme? ('r' :: '#' :: c :: (text ++ back)) = some (.word ('r' :: '#' :: c :: text), back) := by
  have quote : c ≠ '"' := Identifier.ne_of_isStart start (by decide)
  have hash : c ≠ '#' := Identifier.ne_of_isStart start (by decide)
  have string : Literal.string? ('r' :: '#' :: c :: (text ++ back)) = none := by
    simp [Literal.string?, Literal.raw?, Literal.rawFence?, quote, hash]
  have character : Literal.character? ('r' :: '#' :: c :: (text ++ back)) = none :=
    character?_of_isStart (by decide) (by simp)
  refine lexeme?_of_word? (by decide) (rest?_eq_none string character (by decide)) ?_ ?_
  · simp [beginsQuoted, quote, hash]
  · rw [word?, split?_append start inside stops, Option.bind_some]
    dsimp only
    rw [proper]
    rfl

end Words

/-- A word is read as one lexeme. -/
theorem lexes_word {text : List Char} (word : IsWord text) : Lexes text (.word text) := by
  obtain ⟨c, text, rfl, start, inside⟩ | ⟨c, text, rfl, start, inside, proper⟩ := word.shape
  · have slash : c ≠ '/' := Identifier.ne_of_isStart start (by decide)
    exact ⟨List.cons_ne_nil _ _, by simpa using slash,
      fun back _ => dropBlank?_eq_none slash (Identifier.isBlank_of_isStart start) _,
      fun back stops => lexeme?_identifier start inside stops⟩
  · exact ⟨List.cons_ne_nil _ _, by simp,
      fun back _ => dropBlank?_eq_none (by decide) (by decide) _,
      fun back stops => lexeme?_raw start inside stops proper⟩

/-! ### Punctuation -/

/-- Punctuation that begins neither a comment nor a character. -/
def IsMark (c : Char) : Prop := c ∈ marks

instance (c : Char) : Decidable (IsMark c) := inferInstanceAs (Decidable (_ ∈ _))

/-- A mark is read alone, and its spacing tells whether more punctuation follows. -/
theorem lexeme?_mark {c : Char} (mark : IsMark c) (rest : List Char) :
    lexeme? (c :: rest) =
      some (.punct c (if beginsWithPunct rest then .joint else .alone), rest) := by
  have table : ∀ c ∈ marks, c ≠ '/' ∧ opens? c = none ∧
      closes? c = none ∧ c.isDigit = false ∧ isPunct c = true ∧ c ≠ '\'' ∧ c ≠ '"' ∧ c ≠ 'r' ∧
      c ≠ 'b' ∧ c ≠ 'c' := forall_of_all (by decide)
  obtain ⟨slash, opens, closes, digit, punct, single, others⟩ := table c mark
  have literal : Literal.rest? (c :: rest) = none :=
    rest?_eq_none (by simp [Literal.string?, others])
      (by simp [Literal.character?, others, single]) digit
  rw [lexeme?_eq_leaf? slash opens closes]
  unfold leaf?
  rw [literal]
  simp [single, beginsWithPunct, slash, punct]

theorem dropBlank?_mark {c : Char} (mark : IsMark c) (rest : List Char) :
    dropBlank? (c :: rest) = none := by
  have table : ∀ c ∈ marks, c ≠ '/' ∧ Blank.isBlank c = false := forall_of_all (by decide)
  exact dropBlank?_eq_none (table c mark).1 (table c mark).2 rest

end Lexer

end MacroExpansion
