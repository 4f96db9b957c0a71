import MacroExpansion.Proofs.Text.Lexing
import MacroExpansion.Proofs.Transparency
import MacroExpansion.Token.Printer

/-!
# Printed tokens are read back

Tokens that can be printed are read back from what is printed for them, up to their places. The text
is cut into lexemes first, and then the delimiters find their partners; `Cuts` says what the first
part does to the front of a text, `Tokens.lexemes` is what it finds, and the second part puts the
same tokens together again.

What stands behind a space is not touched: it is read as it is read on its own.
-/

namespace MacroExpansion

namespace Lexer

/-! ### Cutting a text -/

/-- The lexemes of a text without their places. -/
def cut? : Nat → List Char → Option (List Lexeme)
  | 0, text => if text.isEmpty then some [] else none
  | steps + 1, text =>
    let text' := dropBlanks text.length text
    if text'.isEmpty then some []
    else (lexeme? text').bind fun (lexeme, rest) => (cut? steps rest).map (lexeme :: ·)

/-- Places make no difference to what is found. -/
theorem map_lexemes? (steps : Nat) (position : Position) (text : List Char) :
    (lexemes? steps position text).map (·.map Prod.fst) = cut? steps text := by
  induction steps generalizing position text with
  | zero =>
      rw [lexemes?, cut?]
      split <;> rfl
  | succ steps ih =>
      rw [lexemes?, cut?]
      dsimp only
      split
      · rfl
      · cases lexeme? (dropBlanks text.length text) with
        | none => rfl
        | some found =>
            rw [Option.bind_some, Option.bind_some, ← ih, Option.map_map, Option.map_map]
            rfl

/-- More steps than are needed find the same. -/
theorem cut?_mono {steps more : Nat} {text : List Char} {lexemes : List Lexeme}
    (found : cut? steps text = some lexemes) (le : steps ≤ more) :
    cut? more text = some lexemes := by
  induction steps generalizing more text lexemes with
  | zero =>
      simp only [cut?, List.isEmpty_iff, Option.ite_none_right_eq_some, Option.some.injEq] at found
      obtain ⟨rfl, rfl⟩ := found
      cases more <;> rfl
  | succ steps ih =>
      cases more with
      | zero => exact absurd le (Nat.not_succ_le_zero _)
      | succ more =>
          rw [cut?] at found ⊢
          dsimp only at found ⊢
          split at found
          · rwa [if_pos ‹_›]
          · obtain ⟨⟨lexeme, rest⟩, read, found⟩ := Option.bind_eq_some_iff.mp found
            obtain ⟨behind, cut, rfl⟩ := Option.map_eq_some_iff.mp found
            rw [if_neg ‹_›, read, Option.bind_some]
            dsimp only at cut ⊢
            rw [ih cut (Nat.le_of_succ_le_succ le), Option.map_some]

/-- The front of a text is cut into lexemes, and this is left. -/
inductive Cuts : List Char → List Lexeme → List Char → Prop where
  | done (text : List Char) : Cuts text [] text
  | blank {text back : List Char} {lexemes : List Lexeme} (more : Cuts text lexemes back) :
      Cuts (' ' :: text) lexemes back
  | lexeme {text rest back : List Char} {lexeme : Lexeme} {lexemes : List Lexeme}
      (seen : dropBlank? text = none) (read : lexeme? text = some (lexeme, rest))
      (shorter : rest.length < text.length) (more : Cuts rest lexemes back) :
      Cuts text (lexeme :: lexemes) back

theorem dropBlanks_of_seen {text : List Char} (seen : dropBlank? text = none) (steps : Nat) :
    dropBlanks steps text = text := by
  cases steps with
  | zero => rfl
  | succ steps => rw [dropBlanks, seen]

theorem cut?_space (steps : Nat) (text : List Char) :
    cut? (steps + 1) (' ' :: text) = cut? (steps + 1) text := by
  have dropped : dropBlanks (' ' :: text).length (' ' :: text) = dropBlanks text.length text := by
    rw [List.length_cons, dropBlanks]
    rfl
  rw [cut?, cut?, dropped]

theorem Cuts.append {text middle back : List Char} {lexemes more : List Lexeme}
    (first : Cuts text lexemes middle) (second : Cuts middle more back) :
    Cuts text (lexemes ++ more) back := by
  induction first with
  | done text => exact second
  | blank _ ih => exact .blank (ih second)
  | lexeme seen read shorter _ ih => exact .lexeme seen read shorter (ih second)

/-- With steps enough for the text, there are steps enough for what is left of it. -/
theorem Cuts.cut? {text back : List Char} {lexemes : List Lexeme} (cuts : Cuts text lexemes back)
    {steps : Nat} (enough : text.length < steps) :
    ∃ left, back.length < left ∧
      Lexer.cut? steps text = (Lexer.cut? left back).map (lexemes ++ ·) := by
  -- A space costs no step, and each lexeme costs one and shortens the text by at least one.
  induction cuts generalizing steps with
  | done text => exact ⟨steps, enough, by simp⟩
  | @blank text back lexemes _ ih =>
      obtain _ | steps := steps
      · exact absurd enough (Nat.not_lt_zero _)
      · rw [cut?_space]
        exact ih (Nat.lt_of_succ_lt enough)
  | @lexeme text rest back lexeme lexemes seen read shorter _ ih =>
      obtain _ | steps := steps
      · exact absurd enough (Nat.not_lt_zero _)
      · obtain ⟨left, most, found⟩ := ih (Nat.lt_of_lt_of_le shorter (Nat.le_of_lt_succ enough))
        have filled : text.isEmpty = false := by
          rw [List.isEmpty_eq_false_iff]
          rintro rfl
          exact absurd shorter (Nat.not_lt_zero _)
        refine ⟨left, most, ?_⟩
        rw [Lexer.cut?, dropBlanks_of_seen seen, filled, read, if_neg Bool.false_ne_true,
          Option.bind_some]
        dsimp only
        rw [found, Option.map_map]
        rfl

end Lexer

/-! ### Putting tokens together -/

theorem Tokens.unplaced_eq_map (tokens : Tokens) : tokens.unplaced = tokens.map Token.unplaced := by
  induction tokens with
  | nil => rfl
  | cons token tokens ih => rw [unplaced, ih, List.map_cons]

theorem Tokens.unplaced_reverse (tokens : Tokens) :
    unplaced tokens.reverse = (unplaced tokens).reverse := by
  rw [unplaced_eq_map, unplaced_eq_map, List.map_reverse]

mutual

/-- The lexemes that a token is read from. -/
def Token.lexemes : Token → List Lexer.Lexeme
  | .ident text _ => [.word text.toList]
  | .punct c spacing _ => [.punct c spacing]
  | .literal text _ => [.literal text.toList]
  | .group delimiter inner _ => .opening delimiter :: (Tokens.lexemes inner ++ [.closing delimiter])

/-- The lexemes that tokens are read from. -/
def Tokens.lexemes : Tokens → List Lexer.Lexeme
  | [] => []
  | token :: rest => token.lexemes ++ Tokens.lexemes rest

end

namespace Lexer

/-- These lexemes with their places are put together to the tokens, whatever stands around them. -/
def Assembles (found : List (Lexeme × Span)) (tokens : Tokens) : Prop :=
  ∃ read : Tokens, read.unplaced = tokens.unplaced ∧ ∀ frames done rest,
    assemble? frames done (found ++ rest) = assemble? frames (read.reverse ++ done) rest

theorem Assembles.nil : Assembles [] [] := ⟨[], rfl, fun _ _ _ => rfl⟩

theorem Assembles.append {found more : List (Lexeme × Span)} {tokens rest : Tokens}
    (first : Assembles found tokens) (second : Assembles more rest) :
    Assembles (found ++ more) (tokens ++ rest) := by
  obtain ⟨read, same, first⟩ := first
  obtain ⟨other, alike, second⟩ := second
  refine ⟨read ++ other, by rw [Tokens.unplaced_append, Tokens.unplaced_append, same, alike],
    fun frames done behind => ?_⟩
  rw [List.append_assoc, first, second, List.reverse_append, List.append_assoc]

/-- What is put together inside two delimiters becomes a group. -/
theorem Assembles.group {found : List (Lexeme × Span)} {inner : Tokens}
    (inside : Assembles found inner) (delimiter : Delimiter) (start stop span : Span) :
    Assembles ((.opening delimiter, start) :: (found ++ [(.closing delimiter, stop)]))
      [.group delimiter inner span] := by
  obtain ⟨read, same, inside⟩ := inside
  refine ⟨[.group delimiter read ⟨start.start, stop.stop⟩], by simp [Tokens.unplaced,
    Token.unplaced, same], fun frames done rest => ?_⟩
  rw [List.cons_append, List.append_assoc, List.singleton_append, assemble?, inside, assemble?]
  simp

/-- A lexeme that is put together to a token by itself. -/
theorem Assembles.leaf {lexeme : Lexeme} {place : Span} {token : Token}
    (read : Token) (same : read.unplaced = token.unplaced)
    (alone : ∀ frames done rest, assemble? frames done ((lexeme, place) :: rest) =
      assemble? frames (read :: done) rest) :
    Assembles [(lexeme, place)] [token] :=
  ⟨[read], by rw [Tokens.unplaced, same]; rfl, alone⟩

mutual

/-- The lexemes of a token are put together to the token, wherever they stand. -/
theorem assembles_token (token : Token) (found : List (Lexeme × Span))
    (same : found.map Prod.fst = token.lexemes) : Assembles found [token] := by
  cases token with
  | ident text span =>
      obtain ⟨⟨_, place⟩, rfl, rfl⟩ := List.map_eq_singleton_iff.mp same
      exact .leaf (.ident text place) rfl fun _ _ _ => by rw [assemble?, String.ofList_toList]
  | punct c spacing span =>
      obtain ⟨⟨_, place⟩, rfl, rfl⟩ := List.map_eq_singleton_iff.mp same
      exact .leaf (.punct c spacing place) rfl fun _ _ _ => by rw [assemble?]
  | literal text span =>
      obtain ⟨⟨_, place⟩, rfl, rfl⟩ := List.map_eq_singleton_iff.mp same
      exact .leaf (.literal text place) rfl fun _ _ _ => by rw [assemble?, String.ofList_toList]
  | group delimiter inner span =>
      rw [Token.lexemes] at same
      obtain ⟨⟨_, start⟩, behind, rfl, rfl, closed⟩ := List.map_eq_cons_iff.mp same
      obtain ⟨inside, last, rfl, content, closing⟩ := List.map_eq_append_iff.mp closed
      obtain ⟨⟨_, stop⟩, rfl, rfl⟩ := List.map_eq_singleton_iff.mp closing
      exact (assembles_tokens inner inside content).group delimiter start stop span

/-- The lexemes of tokens are put together to the tokens, wherever they stand. -/
theorem assembles_tokens (tokens : Tokens) (found : List (Lexeme × Span))
    (same : found.map Prod.fst = tokens.lexemes) : Assembles found tokens := by
  cases tokens with
  | nil =>
      obtain rfl := List.map_eq_nil_iff.mp same
      exact .nil
  | cons token rest =>
      rw [Tokens.lexemes] at same
      obtain ⟨first, behind, rfl, here, there⟩ := List.map_eq_append_iff.mp same
      exact (assembles_token token first here).append (assembles_tokens rest behind there)

end

/-- Two states in the middle of putting tokens together. The open groups are the same up to places,
except that the outermost level of the second one lacks these tokens, last first. -/
inductive Behind (front : Tokens) : List Frame → Tokens → List Frame → Tokens → Prop where
  | outermost {done other : Tokens} (level : done.unplaced = other.unplaced ++ front) :
      Behind front [] done [] other
  | inside {frame another : Frame} {frames others : List Frame} {done other : Tokens}
      (around : Behind front frames frame.before others another.before)
      (delimiter : frame.delimiter = another.delimiter) (level : done.unplaced = other.unplaced) :
      Behind front (frame :: frames) done (another :: others) other

/-- The same tokens are added at the innermost level. -/
theorem Behind.add {front : Tokens} {frames others : List Frame} {done other : Tokens}
    (behind : Behind front frames done others other) {tokens more : Tokens}
    (same : tokens.unplaced = more.unplaced) :
    Behind front frames (tokens ++ done) others (more ++ other) := by
  cases behind with
  | outermost level =>
      refine .outermost ?_
      rw [Tokens.unplaced_append, Tokens.unplaced_append, same, level, List.append_assoc]
  | inside around delimiter level =>
      refine .inside around delimiter ?_
      rw [Tokens.unplaced_append, Tokens.unplaced_append, same, level]

theorem Behind.push {front : Tokens} {frames others : List Frame} {done other : Tokens}
    (behind : Behind front frames done others other) {token another : Token}
    (same : token.unplaced = another.unplaced) :
    Behind front frames (token :: done) others (another :: other) := by
  have level : Tokens.unplaced [token] = Tokens.unplaced [another] := by
    rw [Tokens.unplaced, same]
    rfl
  exact behind.add level

/-- A documentation comment stands for the same tokens wherever it is. -/
theorem unplaced_docTokens (inner : Bool) (text : List Char) (span other : Span) :
    (docTokens inner text span).unplaced = (docTokens inner text other).unplaced := by
  cases inner <;> rfl

/-- The same lexemes complete both states in the same way. -/
theorem Behind.assemble? {front : Tokens} {frames others : List Frame} {done other : Tokens}
    (behind : Behind front frames done others other) {found more : List (Lexeme × Span)}
    (same : found.map Prod.fst = more.map Prod.fst) {result : Tokens}
    (whole : Lexer.assemble? others other more = some result) :
    ∃ read, Lexer.assemble? frames done found = some read ∧
      read.unplaced = front.reverse ++ result.unplaced := by
  induction more generalizing found frames others done other with
  | nil =>
      obtain rfl := List.map_eq_nil_iff.mp same
      cases behind with
      | outermost level =>
          rw [Lexer.assemble?, Option.some.injEq] at whole
          subst whole
          refine ⟨done.reverse, by rw [Lexer.assemble?], ?_⟩
          rw [Tokens.unplaced_reverse, level, List.reverse_append, Tokens.unplaced_reverse]
      | inside => cases whole
  | cons first more ih =>
      obtain ⟨known, span⟩ := first
      obtain ⟨⟨lexeme, place⟩, rest, rfl, head, following⟩ := List.map_eq_cons_iff.mp same
      obtain rfl : lexeme = known := head
      -- Delimiters change which groups are open; all other lexemes add to the innermost level.
      cases lexeme with
      | opening delimiter =>
          rw [Lexer.assemble?] at whole ⊢
          refine ih ?_ following whole
          exact .inside behind rfl rfl
      | closing delimiter =>
          cases behind with
          | outermost => cases whole
          | inside around matching level =>
              rw [Lexer.assemble?, Option.ite_none_right_eq_some] at whole
              rw [Lexer.assemble?, if_pos (matching.trans whole.1)]
              refine ih ?_ following whole.2
              refine around.push ?_
              rw [Token.unplaced, Token.unplaced, Tokens.unplaced_reverse, level,
                Tokens.unplaced_reverse]
      | word text =>
          rw [Lexer.assemble?] at whole ⊢
          refine ih ?_ following whole
          exact behind.push rfl
      | punct c spacing =>
          rw [Lexer.assemble?] at whole ⊢
          refine ih ?_ following whole
          exact behind.push rfl
      | literal text =>
          rw [Lexer.assemble?] at whole ⊢
          refine ih ?_ following whole
          exact behind.push rfl
      | doc inner text =>
          rw [Lexer.assemble?] at whole ⊢
          refine ih (behind.add ?_) following whole
          rw [Tokens.unplaced_reverse, Tokens.unplaced_reverse, unplaced_docTokens]

/-- What is put together on its own is put together in the same way behind other tokens. -/
theorem Assembles.before {found more behind : List (Lexeme × Span)} {tokens result : Tokens}
    (front : Assembles found tokens) (same : more.map Prod.fst = behind.map Prod.fst)
    (whole : assemble? [] [] behind = some result) :
    ∃ read, assemble? [] [] (found ++ more) = some read ∧
      read.unplaced = tokens.unplaced ++ result.unplaced := by
  obtain ⟨first, alike, front⟩ := front
  have outermost : Behind first.unplaced.reverse [] (first.reverse ++ []) [] [] := by
    refine .outermost ?_
    rw [List.append_nil, Tokens.unplaced_reverse, Tokens.unplaced, List.nil_append]
  obtain ⟨read, put, eq⟩ := outermost.assemble? same whole
  refine ⟨read, by rw [front, put], ?_⟩
  rw [eq, List.reverse_reverse, alike]

end Lexer

/-! ### Tokens that can be printed -/

/-- Tokens that are told apart when they are printed: words, numbers, quoted texts and punctuation,
and groups of them with visible delimiters. Joint punctuation has more punctuation behind it. -/
inductive Tokens.Printable : Tokens → Prop where
  | nil : Printable []
  | word {text : String} {rest : Tokens} (word : Lexer.IsWord text.toList) (span : Span)
      (more : Printable rest) : Printable (.ident text span :: rest)
  | string {rest : Tokens} (text : String) (span : Span) (more : Printable rest) :
      Printable (.literal (Quoted.quote .literal text) span :: rest)
  | number {rest : Tokens} (n : Nat) (span : Span) (more : Printable rest) :
      Printable (.literal (String.ofList (Nat.toDigits 10 n)) span :: rest)
  | mark {c : Char} {rest : Tokens} (mark : Lexer.IsMark c) (span : Span)
      (more : Printable rest) : Printable (.punct c .alone span :: rest)
  | joint {c d : Char} {spacing : Spacing} {place : Span} {rest : Tokens} (mark : Lexer.IsMark c)
      (next : Lexer.IsMark d) (span : Span) (more : Printable (.punct d spacing place :: rest)) :
      Printable (.punct c .joint span :: .punct d spacing place :: rest)
  | group {delimiter : Delimiter} {inner rest : Tokens} (visible : delimiter ≠ .invisible)
      (inside : Printable inner) (span : Span) (more : Printable rest) :
      Printable (.group delimiter inner span :: rest)

namespace Tokens

theorem Printable.append {front back : Tokens} (first : front.Printable)
    (second : back.Printable) : Printable (front ++ back) := by
  induction first with
  | nil => exact second
  | word word span _ ih => exact .word word span ih
  | string text span _ ih => exact .string text span ih
  | number n span _ ih => exact .number n span ih
  | mark mark span _ ih => exact .mark mark span ih
  | joint mark next span _ ih => exact .joint mark next span ih
  | group visible inside span _ _ ih => exact .group visible inside span ih

/-- What is printed behind a token that ends loose, with the text behind it. -/
def printedBehind (rest : Tokens) (back : List Char) : List Char :=
  if rest.isEmpty then back else ' ' :: (rest.render.toList ++ back)

theorem render_cons_append {token : Token} (loose : token.isJoint = false) (rest : Tokens)
    (back : List Char) :
    (render (token :: rest)).toList ++ back = token.render.toList ++ printedBehind rest back := by
  rw [render, loose, printedBehind]
  cases rest <;> simp [render]

theorem stops_printedBehind (rest : Tokens) {back : List Char} (stops : Lexer.Stops back) :
    Lexer.Stops (printedBehind rest back) := by
  unfold printedBehind
  split
  · exact stops
  · exact .space _

open Lexer

/-- Cutting goes on behind a token as it does at the start of a text. -/
theorem cuts_printedBehind {rest : Tokens} {back : List Char}
    (cuts : Cuts (rest.render.toList ++ back) rest.lexemes back) :
    Cuts (printedBehind rest back) rest.lexemes back := by
  unfold printedBehind
  split
  · rename_i none
    obtain rfl := List.isEmpty_iff.mp none
    exact .done back
  · exact .blank cuts

/-- In front of whatever stops them, the printed tokens are cut into their lexemes. They do not
begin with a slash, which would change the meaning of an opening parenthesis. -/
structure CutsOut (tokens : Tokens) (back : List Char) : Prop where
  cuts : Cuts (tokens.render.toList ++ back) tokens.lexemes back
  front : ∀ c ∈ (tokens.render.toList ++ back).head?, c ≠ '/'

/-- A token that is read as one lexeme, with more tokens behind it. -/
theorem CutsOut.leaf {token : Token} {chunk : List Char} {lexeme : Lexeme}
    (lexes : Lexes chunk lexeme) (shown : token.render.toList = chunk)
    (loose : token.isJoint = false) (own : token.lexemes = [lexeme]) {rest : Tokens}
    {back : List Char} (stops : Stops back) (more : CutsOut rest back) :
    CutsOut (token :: rest) back := by
  have behind := stops_printedBehind rest stops
  have text := render_cons_append loose rest back
  rw [shown] at text
  constructor
  · rw [text, lexemes, own]
    refine .lexeme (lexes.seen _ behind) (lexes.read _ behind) ?_ (cuts_printedBehind more.cuts)
    have filled := List.length_pos_iff.mpr lexes.filled
    rw [List.length_append]
    omega
  · rw [text, List.head?_append_of_ne_nil _ lexes.filled]
    exact lexes.front

/-- A delimiter or a mark is read by itself. -/
theorem cuts_char {c : Char} {lexeme : Lexeme} {rest back : List Char} {lexemes : List Lexeme}
    (seen : dropBlank? (c :: rest) = none) (read : lexeme? (c :: rest) = some (lexeme, rest))
    (more : Cuts rest lexemes back) : Cuts (c :: rest) (lexeme :: lexemes) back :=
  .lexeme seen read (Nat.lt_succ_self _) more

/-- A round group is not opened in front of a slash, which would belong to the mark of a broken
expression. -/
theorem lexeme?_parenthesis {rest : List Char} (front : ∀ c ∈ rest.head?, c ≠ '/') :
    lexeme? ('(' :: rest) = some (.opening .parenthesis, rest) := by
  have mark : brokenMark = ['(', '/', '*', 'E', 'R', 'R', 'O', 'R', '*', '/', ')'] := by decide
  have unbroken : Literal.after? brokenMark ('(' :: rest) = none := by
    rw [mark]
    cases rest with
    | nil => rfl
    | cons c rest => simp [Literal.after?, (front c rfl).symm]
  unfold lexeme?
  rw [docComment?_eq_none (by decide)]
  dsimp only [opens?]
  rw [unbroken]
  rfl

theorem cuts_parenthesis {rest back : List Char} {lexemes : List Lexeme}
    (front : ∀ c ∈ rest.head?, c ≠ '/') (more : Cuts rest lexemes back) :
    Cuts ('(' :: rest) (.opening .parenthesis :: lexemes) back :=
  cuts_char (dropBlank?_eq_none (by decide) (by decide) _) (lexeme?_parenthesis front) more

theorem cuts_opening {delimiter : Delimiter} {c : Char}
    (own : (c = '[' ∧ delimiter = .bracket) ∨ (c = '\x7b' ∧ delimiter = .brace))
    {rest back : List Char} {lexemes : List Lexeme} (more : Cuts rest lexemes back) :
    Cuts (c :: rest) (.opening delimiter :: lexemes) back := by
  obtain ⟨rfl, rfl⟩ | ⟨rfl, rfl⟩ := own <;>
    exact cuts_char (dropBlank?_eq_none (by decide) (by decide) _) rfl more

theorem cuts_closing {delimiter : Delimiter} {c : Char}
    (own : (c = ')' ∧ delimiter = .parenthesis) ∨ (c = ']' ∧ delimiter = .bracket) ∨
      (c = '\x7d' ∧ delimiter = .brace)) {rest back : List Char} {lexemes : List Lexeme}
    (more : Cuts rest lexemes back) : Cuts (c :: rest) (.closing delimiter :: lexemes) back := by
  obtain ⟨rfl, rfl⟩ | ⟨rfl, rfl⟩ | ⟨rfl, rfl⟩ := own <;>
    exact cuts_char (dropBlank?_eq_none (by decide) (by decide) _) rfl more

/-- A group whose inside and whose surroundings are cut is cut as a whole. -/
theorem CutsOut.group {delimiter : Delimiter} (visible : delimiter ≠ .invisible)
    {inner rest : Tokens} {back : List Char} (span : Span)
    (inside : ∀ back, Stops back → CutsOut inner back) (more : CutsOut rest back) :
    CutsOut (.group delimiter inner span :: rest) back := by
  have behind := cuts_printedBehind more.cuts
  have text : (render (.group delimiter inner span :: rest)).toList ++ back =
      (Token.group delimiter inner span).render.toList ++ printedBehind rest back :=
    render_cons_append rfl rest back
  rw [Token.render] at text
  constructor
  · rw [text, lexemes, Token.lexemes]
    cases delimiter with
    | parenthesis =>
        have closed := cuts_closing (.inl ⟨rfl, rfl⟩) behind
        obtain ⟨content, front⟩ := inside _ (.closing (.inl rfl) _)
        have opened := cuts_parenthesis front (content.append closed)
        simpa [Delimiter.opening, Delimiter.closing] using opened
    | bracket =>
        have closed := cuts_closing (.inr (.inl ⟨rfl, rfl⟩)) behind
        have content := (inside _ (.closing (.inr rfl) _)).cuts.append closed
        have opened := cuts_opening (.inl ⟨rfl, rfl⟩) content
        simpa [Delimiter.opening, Delimiter.closing] using opened
    | brace =>
        have closed := cuts_closing (.inr (.inr ⟨rfl, rfl⟩)) behind
        have content : Cuts (inner.render.toList ++
            (Delimiter.brace.closing inner.isEmpty).toList ++ printedBehind rest back)
            (inner.lexemes ++ .closing .brace :: rest.lexemes) back := by
          cases inner with
          | nil => simpa [Delimiter.closing, render, lexemes] using closed
          | cons token inner =>
              have whole := (inside _ (.space _)).cuts.append (.blank closed)
              simpa [Delimiter.closing] using whole
        have opened := cuts_opening (.inr ⟨rfl, rfl⟩) (.blank content)
        simpa [Delimiter.opening] using opened
    | invisible => exact absurd rfl visible
  · rw [text]
    cases delimiter with
    | invisible => exact absurd rfl visible
    | _ => simp [Delimiter.opening]

theorem lexes_mark {c : Char} (mark : IsMark c) : Lexes [c] (.punct c .alone) := by
  have slash : c ≠ '/' := by
    rintro rfl
    exact absurd mark (by decide)
  refine ⟨List.cons_ne_nil _ _, by simpa using slash, fun back _ => dropBlank?_mark mark back,
    fun back stops => ?_⟩
  have ends : beginsWithPunct back = false := by
    cases back with
    | nil => rfl
    | cons d back =>
        obtain ⟨slash, punct⟩ := stops.head (fun d => d ≠ '/' ∧ isPunct d = false) (by decide) d rfl
        simp [beginsWithPunct, slash, punct]
  rw [List.singleton_append, lexeme?_mark mark, ends]
  rfl

/-- Punctuation is not printed as the start of a comment. -/
theorem beginsWithPunct_mark {d : Char} (mark : IsMark d) (rest : List Char) :
    beginsWithPunct (d :: rest) = true := by
  have table : ∀ d ∈ marks, d ≠ '/' ∧ isPunct d = true := forall_of_all (by decide)
  obtain ⟨slash, punct⟩ := table d mark
  simp [beginsWithPunct, slash, punct]

/-- Joint punctuation is read by itself, and the punctuation behind it makes it joint. -/
theorem CutsOut.joint {c d : Char} {spacing : Spacing} {span place : Span} {rest : Tokens}
    {back : List Char} (mark : IsMark c) (next : IsMark d)
    (more : CutsOut (.punct d spacing place :: rest) back) :
    CutsOut (.punct c .joint span :: .punct d spacing place :: rest) back := by
  obtain ⟨behind, shown⟩ : ∃ behind,
      (render (.punct d spacing place :: rest)).toList ++ back = d :: behind := by
    rw [render, Token.render]
    simp
  have text : (render (.punct c .joint span :: .punct d spacing place :: rest)).toList ++ back =
      c :: ((render (.punct d spacing place :: rest)).toList ++ back) := by
    rw [render, Token.render]
    simp [Token.isJoint]
  have read := lexeme?_mark mark (d :: behind)
  rw [beginsWithPunct_mark next, if_pos rfl, ← shown] at read
  constructor
  · rw [text, lexemes, Token.lexemes]
    exact cuts_char (dropBlank?_mark mark _) read more.cuts
  · rw [text]
    exact (lexes_mark mark).front

/-- Printed tokens are cut into their lexemes, whatever stands behind them. -/
theorem Printable.cutsOut {tokens : Tokens} (printable : tokens.Printable) {back : List Char}
    (stops : Stops back) : CutsOut tokens back := by
  induction printable generalizing back with
  | nil => exact ⟨.done back, stops.head _ (by decide)⟩
  | word word span _ ih =>
      exact .leaf (lexes_word word) (by rw [Token.render]) rfl rfl stops (ih stops)
  | string text span _ ih =>
      exact .leaf (lexes_quote text) (by rw [Token.render]) rfl rfl stops (ih stops)
  | number n span _ ih =>
      refine .leaf (lexes_number n) ?_ rfl ?_ stops (ih stops)
      · rw [Token.render, String.toList_ofList]
      · rw [Token.lexemes, String.toList_ofList]
  | mark mark span _ ih =>
      exact .leaf (lexes_mark mark) (by rw [Token.render, String.toList_singleton]) rfl rfl stops
        (ih stops)
  | joint mark next span _ ih => exact .joint mark next (ih stops)
  | group visible inside span _ within ih =>
      exact .group visible span (fun _ stops => within stops) (ih stops)

/-- A byte order mark is nothing that a token begins with. -/
theorem lexeme?_byteOrderMark (rest : List Char) : lexeme? ('\uFEFF' :: rest) = none := by
  have literal : Literal.rest? ('\uFEFF' :: rest) = none :=
    rest?_eq_none (by simp [Literal.string?]) (by simp [Literal.character?]) (by decide)
  have start : Identifier.isStart '\uFEFF' = false := by decide +kernel
  have word : Lexer.word? ('\uFEFF' :: rest) = none := by
    simp [Lexer.word?, Identifier.split?, start]
  have punct : isPunct '\uFEFF' = false := by decide
  have mark : brokenMark = ['(', '/', '*', 'E', 'R', 'R', 'O', 'R', '*', '/', ')'] := by decide
  rw [lexeme?_eq_leaf? (by decide) rfl rfl]
  unfold leaf?
  rw [literal]
  simp [beginsWithPunct, punct, beginsQuoted, word, mark, Literal.after?]

theorem head_of_cuts {text back : List Char} {lexemes : List Lexeme} (cuts : Cuts text lexemes back)
    (behind : back.head? ≠ some '\uFEFF') : text.head? ≠ some '\uFEFF' := by
  cases cuts with
  | done => exact behind
  | blank => simp
  | lexeme _ read =>
      intro first
      obtain ⟨rest, rfl⟩ := List.head?_eq_some_iff.mp first
      rw [lexeme?_byteOrderMark] at read
      cases read

/-- A text without a byte order mark in front is cut as it stands. -/
theorem ofText?_eq {text : String} (unmarked : text.toList.head? ≠ some '\uFEFF') :
    ofText? text =
      (lexemes? (text.toList.length + 1) .origin text.toList).bind (assemble? [] []) := by
  unfold ofText?
  dsimp only
  split
  · rename_i marked
    exact absurd (by rw [marked]; rfl) unmarked
  · rfl

/-- Printed tokens are read back up to their places, and what stands behind them is read as it is
on its own. -/
theorem Printable.ofText?_append {front : Tokens} (printable : front.Printable) {back : String}
    (stops : Stops back.toList) {others : Tokens} (whole : ofText? back = some others) :
    ∃ read, ofText? (front.render ++ back) = some read ∧
      read.unplaced = front.unplaced ++ others.unplaced := by
  have cuts := (printable.cutsOut stops).cuts
  have unmarked : back.toList.head? ≠ some '\uFEFF' := fun first =>
    absurd rfl (stops.head (· ≠ '\uFEFF') (by decide) _ first)
  rw [ofText?_eq unmarked] at whole
  obtain ⟨behind, alone, put⟩ := Option.bind_eq_some_iff.mp whole
  have known := map_lexemes? (back.toList.length + 1) .origin back.toList
  rw [alone, Option.map_some] at known
  rw [← String.toList_append] at cuts
  obtain ⟨left, most, found⟩ := cuts.cut? (Nat.lt_succ_self _)
  rw [cut?_mono known.symm most, Option.map_some, ← map_lexemes? _ .origin] at found
  obtain ⟨all, cut, split⟩ := Option.map_eq_some_iff.mp found
  obtain ⟨first, more, rfl, here, there⟩ := List.map_eq_append_iff.mp split
  obtain ⟨read, assembled, same⟩ := (assembles_tokens front first here).before there put
  refine ⟨read, ?_, same⟩
  rw [ofText?_eq (by rw [String.toList_append] at cuts ⊢; exact head_of_cuts cuts unmarked)]
  exact Option.bind_eq_some_iff.mpr ⟨_, cut, assembled⟩

/-- Printed tokens are read back up to their places. -/
theorem Printable.ofText?_render {tokens : Tokens} (printable : tokens.Printable) :
    ∃ read, ofText? tokens.render = some read ∧ read.unplaced = tokens.unplaced := by
  have stops : Stops "".toList := .nil
  have nothing : ofText? "" = some [] := rfl
  obtain ⟨read, whole, same⟩ := printable.ofText?_append stops nothing
  rw [String.append_empty] at whole
  exact ⟨read, whole, by rw [same, unplaced, List.append_nil]⟩

end Tokens

end MacroExpansion
