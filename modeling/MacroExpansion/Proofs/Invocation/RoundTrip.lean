import Mathlib.Data.List.Forall2
import MacroExpansion.Proofs.Invocation.Grammar
import MacroExpansion.Proofs.Reading.Depth
import MacroExpansion.Token.Printer

/-!
# Printing an invocation and reading it again

The tokens that are printed for an invocation spell it again, as long as those of each expression
and of the block, taken alone, are read back. Then they are read back from where they stand: a
deeper grammar reads what a shallower one does, and a comma or an arrow behind an expression changes
nothing. Nor can anything else be read in another way: labels, commas and the arrow are printed the
way they are looked for, and no expression takes them in.

What is printed are the tokens that were read, except that a label's colon, a comma and the end of
an arrow are printed alone, whatever they were joint to.
-/

namespace MacroExpansion

open TokenReader

namespace Invocation

/-- What is printed behind an argument: its comma, the other arguments, and the block. -/
def behind (comma : Tokens) (back : List (Argument × Tokens)) (trailing : Option Trailing) :
    Tokens :=
  comma ++ Invocation.tokens ⟨back, trailing⟩

theorem tokens_cons (argument : Argument) (comma : Tokens) (back : List (Argument × Tokens))
    (trailing : Option Trailing) :
    Invocation.tokens ⟨(argument, comma) :: back, trailing⟩ =
      argument.tokens ++ behind comma back trailing := by
  simp [Invocation.tokens, behind]

/-- Printed alone, the expressions of an invocation and its block are read back as what they were,
by the given notions of sameness. An expression right in front of the arrow must not run together
with it: if it ends with a joint mark, it is read back in front of the arrow as well. -/
structure ReadsBack (same : Expr → Expr → Prop) (sameBlock : Block → Block → Prop)
    (invocation : Invocation) : Prop where
  expr : ∀ item ∈ invocation.items, ∃ again, same item.1.expr again ∧
    (Grammar.ofInput item.1.expr.tokens).expr true (.ofTokens item.1.expr.tokens) =
      .ok (again, .ofTokens [])
  block : ∀ trailing, invocation.trailing = some trailing → ∃ again,
    sameBlock trailing.block again ∧
      (Grammar.ofInput trailing.block.tokens).block (.ofTokens trailing.block.tokens) =
        .ok (again, .ofTokens [])
  joint : ∀ front argument trailing, invocation.items = front ++ [(argument, [])] →
    invocation.trailing = some trailing → argument.expr.tokens.endsJoint = true → ∃ again,
      same argument.expr again ∧
      (Grammar.ofInput invocation.tokens).expr true
          (.ofTokens (argument.expr.tokens ++ trailing.tokens)) =
        .ok (again, .ofTokens trailing.tokens)

/-- Printed where they stand, the expressions and the block are read back by a grammar. -/
structure ReadsInPlace (g : Grammar) (same : Expr → Expr → Prop)
    (sameBlock : Block → Block → Prop) (invocation : Invocation) : Prop where
  expr : ∀ front argument comma back, invocation.items = front ++ (argument, comma) :: back →
    ∃ again, same argument.expr again ∧
      g.expr true (.ofTokens (argument.expr.tokens ++ behind comma back invocation.trailing)) =
        .ok (again, .ofTokens (behind comma back invocation.trailing))
  block : ∀ trailing, invocation.trailing = some trailing →
    ∃ again, sameBlock trailing.block again ∧
      g.block (.ofTokens trailing.block.tokens) = .ok (again, .ofTokens [])

/-- The same labels and commas, the same arrow, and the same expressions and block. -/
structure Like (same : Expr → Expr → Prop) (sameBlock : Block → Block → Prop)
    (one other : Invocation) : Prop where
  items : List.Forall₂ (fun item again => again.1.label = item.1.label ∧
    same item.1.expr again.1.expr ∧ again.2 = item.2) one.items other.items
  trailing : Option.Rel (fun trailing again => again.arrow = trailing.arrow ∧
    sameBlock trailing.block again.block) one.trailing other.trailing

end Invocation

/-! ### What is printed is spelled -/

section Reprint

variable {g g' : Grammar} [g'.MovesForward] {same : Expr → Expr → Prop}
  {sameBlock : Block → Block → Prop}

theorem ArgumentAt.reprint {before after : Tokens} {argument : Argument} {parts : List Part}
    (spelled : ArgumentAt g before argument parts after) {behind : Tokens} {again : Expr}
    (read : g'.expr true (.ofTokens (argument.expr.tokens ++ behind)) =
      .ok (again, .ofTokens behind)) :
    ∃ parts, ArgumentAt g' (argument.tokens ++ behind) ⟨argument.label, again⟩ parts behind := by
  obtain ⟨-, written, code⟩ := Reads.of_forward read rfl
  cases spelled with
  | plain => exact ⟨_, .plain code⟩
  | labelled name free colon single =>
      -- Printed, the colon is alone, so that it begins no separator of a path.
      refine ⟨_, .labelled (Tokens.expose_ident _ _ _) free (Tokens.expose_punct _ _ _ _) ?_ code⟩
      simp [Tokens.sees, Tokens.seesChars]

namespace Invocation

/-- The items that were spelled are spelled again by what is printed. -/
theorem itemsAt_reprint {before after : Tokens} {items : List (Argument × Tokens)}
    {parts : List Part} (spelled : ItemsAt g before items parts after) (trailing : Option Trailing)
    (reads : ∀ front argument comma back, items = front ++ (argument, comma) :: back →
      ∃ again, same argument.expr again ∧
        g'.expr true (.ofTokens (argument.expr.tokens ++ behind comma back trailing)) =
          .ok (again, .ofTokens (behind comma back trailing))) :
    ∃ others parts, ItemsAt g' (Invocation.tokens ⟨items, trailing⟩) others parts
        (Invocation.tokens ⟨[], trailing⟩) ∧
      List.Forall₂ (fun item again => again.1.label = item.1.label ∧
        same item.1.expr again.1.expr ∧ again.2 = item.2) items others := by
  induction spelled with
  | none => exact ⟨[], [], .none, .nil⟩
  | last first =>
      obtain ⟨again, alike, read⟩ := reads [] _ _ _ rfl
      obtain ⟨parts, first⟩ := first.reprint read
      rw [tokens_cons]
      exact ⟨_, _, .last first, .cons ⟨rfl, alike, rfl⟩ .nil⟩
  | more first comma rest ih =>
      obtain ⟨again, alike, read⟩ := reads [] _ _ _ rfl
      obtain ⟨parts, first⟩ := first.reprint read
      obtain ⟨others, later, rest, likewise⟩ := ih fun front argument comma back cut =>
        reads (_ :: front) argument comma back (by rw [cut]; rfl)
      rw [tokens_cons]
      exact ⟨_, _, .more first (Tokens.expose_punct _ _ _ _) rest,
        .cons ⟨rfl, alike, rfl⟩ likewise⟩

theorem spelled_reprint {tokens : Tokens} {parts : List Part} {invocation : Invocation}
    (spelled : Spelled g tokens parts invocation)
    (reads : ReadsInPlace g' same sameBlock invocation) :
    ∃ again parts, Spelled g' invocation.tokens parts again ∧
      Like same sameBlock invocation again := by
  cases spelled with
  | bare arguments =>
      obtain ⟨others, parts, arguments, alike⟩ := itemsAt_reprint arguments none reads.expr
      exact ⟨_, _, .bare arguments, alike, .none⟩
  | trailing arguments equals greater code =>
      obtain ⟨others, parts, arguments, alike⟩ := itemsAt_reprint arguments _ reads.expr
      obtain ⟨again, sameAgain, read⟩ := reads.block _ rfl
      obtain ⟨-, written, code⟩ := Reads.of_forward read rfl
      exact ⟨_, _, .trailing arguments (Tokens.expose_punct _ _ _ _)
        (Tokens.expose_punct _ _ _ _) code, alike, .some ⟨rfl, sameAgain⟩⟩

end Invocation

end Reprint

/-! ### What is read alone is read where it stands -/

namespace Grammar

variable {tokens tail whole : Tokens} (room : tokens.size ≤ whole.size)

include room

/-- An expression is read in front of a comma or an arrow as it is alone. -/
theorem expr_before {expr : Expr} (apart : tokens.Apart tail)
    (read : (ofInput tokens).expr true (.ofTokens tokens) = .ok (expr, .ofTokens [])) :
    (ofInput whole).expr true (.ofTokens (tokens ++ tail)) = .ok (expr, .ofTokens tail) := by
  have grows : GrowsBefore tail (ofInput tokens) (ofInput whole) :=
    growsBefore_ofDepth tail (by omega)
  exact ((grows.expr true).follows _ _ _ read apart).2 (.inl rfl)

/-- A block is read among other tokens as it is alone. -/
theorem block_within {block : Block}
    (read : (ofInput tokens).block (.ofTokens tokens) = .ok (block, .ofTokens [])) :
    (ofInput whole).block (.ofTokens tokens) = .ok (block, .ofTokens []) := by
  have grows : Grows (ofInput tokens) (ofInput whole) := grows_ofDepth (by omega)
  have follows : Follows true [] (ofInput tokens).block (ofInput whole).block := inferInstance
  simpa using (follows.follows _ _ _ read .nothing).2 (.inl rfl)

end Grammar

namespace Invocation

theorem tokens_append (front back : List (Argument × Tokens)) (trailing : Option Trailing) :
    Invocation.tokens ⟨front ++ back, trailing⟩ =
      front.flatMap (fun item => item.1.tokens ++ item.2) ++
        Invocation.tokens ⟨back, trailing⟩ := by
  simp [Invocation.tokens]

/-- The tokens of an expression are among those of the invocation. -/
theorem size_expr_le {invocation : Invocation} {front back : List (Argument × Tokens)}
    {argument : Argument} {comma : Tokens}
    (cut : invocation.items = front ++ (argument, comma) :: back) :
    argument.expr.tokens.size ≤ invocation.tokens.size := by
  obtain ⟨items, trailing⟩ := invocation
  subst cut
  rw [tokens_append, tokens_cons, Argument.tokens]
  simp only [Tokens.size_append]
  omega

/-- So are the tokens of the block. -/
theorem size_block_le {invocation : Invocation} {trailing : Trailing}
    (found : invocation.trailing = some trailing) :
    trailing.block.tokens.size ≤ invocation.tokens.size := by
  obtain ⟨items, _⟩ := invocation
  subst found
  simp only [Invocation.tokens, Trailing.tokens, Option.map_some, Option.getD_some,
    Tokens.size_append]
  omega

end Invocation

/-- Each argument is in front of a comma, or is the last. -/
theorem ItemsAt.comma_cases {g : Grammar} {before after : Tokens}
    {items : List (Argument × Tokens)} {parts : List Part}
    (spelled : ItemsAt g before items parts after) {front back : List (Argument × Tokens)}
    {argument : Argument} {comma : Tokens} (cut : items = front ++ (argument, comma) :: back) :
    (∃ place, comma = [.punct ',' .alone place]) ∨ comma = [] ∧ back = [] := by
  induction spelled generalizing front with
  | none => simp at cut
  | last first =>
      cases front with
      | nil =>
          cases cut
          exact .inr ⟨rfl, rfl⟩
      | cons item front => simp at cut
  | more first mark rest ih =>
      cases front with
      | nil =>
          cases cut
          exact .inl ⟨_, rfl⟩
      | cons item front =>
          cases cut
          exact ih rfl

/-- What is printed behind an expression is a comma and more, or nothing, or the arrow and the
block. -/
theorem Spelled.behind_cases {g : Grammar} {tokens : Tokens} {parts : List Part}
    {invocation : Invocation} (spelled : Spelled g tokens parts invocation)
    {front back : List (Argument × Tokens)} {argument : Argument} {comma : Tokens}
    (cut : invocation.items = front ++ (argument, comma) :: back) :
    (∃ place rest, Invocation.behind comma back invocation.trailing =
        .punct ',' .alone place :: rest) ∨
      Invocation.behind comma back invocation.trailing = [] ∨
      ∃ trailing first place, comma = [] ∧ back = [] ∧ invocation.trailing = some trailing ∧
        Invocation.behind comma back invocation.trailing = trailing.tokens ∧
        trailing.arrow = [.punct '=' .joint first, .punct '>' .alone place] := by
  cases spelled with
  | bare arguments =>
      obtain ⟨place, rfl⟩ | ⟨rfl, rfl⟩ := arguments.comma_cases cut
      · exact .inl ⟨place, _, rfl⟩
      · exact .inr (.inl rfl)
  | trailing arguments equals greater code =>
      obtain ⟨place, rfl⟩ | ⟨rfl, rfl⟩ := arguments.comma_cases cut
      · exact .inl ⟨place, _, rfl⟩
      · exact .inr (.inr ⟨_, _, _, rfl, rfl, rfl, rfl, rfl⟩)

/-- What is behind an expression does not run together with it. -/
theorem Invocation.ReadsBack.inPlace {g : Grammar} {tokens : Tokens} {parts : List Part}
    {invocation : Invocation} {same : Expr → Expr → Prop} {sameBlock : Block → Block → Prop}
    (reads : ReadsBack same sameBlock invocation) (spelled : Spelled g tokens parts invocation) :
    ReadsInPlace (.ofInput invocation.tokens) same sameBlock invocation where
  expr front argument comma back cut := by
    have room := size_expr_le cut
    obtain ⟨again, alike, alone⟩ := reads.expr (argument, comma) (by simp [cut])
    obtain ⟨place, rest, tail⟩ | tail | ⟨trailing, first, place, rfl, rfl, found, tail, arrow⟩ :=
      spelled.behind_cases cut
    · refine ⟨again, alike, Grammar.expr_before room ?_ alone⟩
      rw [tail]
      exact .mark (.comma _ _ _) (.inl (by simp [Tokens.sees, Tokens.seesChars]))
    · refine ⟨again, alike, Grammar.expr_before room ?_ alone⟩
      rw [tail]
      exact .nothing
    · rw [tail]
      cases joint : argument.expr.tokens.endsJoint with
      | true => exact reads.joint front argument trailing cut found joint
      | false =>
          refine ⟨again, alike, Grammar.expr_before room ?_ alone⟩
          rw [Trailing.tokens, arrow]
          exact .mark (.arrow _ _ _ _) (.inr joint)
  block trailing found := by
    obtain ⟨again, alike, alone⟩ := reads.block trailing found
    exact ⟨again, alike, Grammar.block_within (size_block_le found) alone⟩

/-! ### What stays the same -/

namespace Invocation.Like

variable {same : Expr → Expr → Prop} {sameBlock : Block → Block → Prop} {one other : Invocation}

theorem size_eq (alike : Like same sameBlock one other) : other.size = one.size :=
  alike.items.length_eq.symm

theorem map_commas_eq (alike : Like same sameBlock one other) :
    other.items.map (·.2) = one.items.map (·.2) := by
  have commas : List.Forall₂ (· = ·) (one.items.map (·.2)) (other.items.map (·.2)) := by
    rw [List.forall₂_map_left_iff, List.forall₂_map_right_iff]
    exact alike.items.imp fun _ _ item => item.2.2.symm
  rw [List.forall₂_eq_eq_eq] at commas
  exact commas.symm

theorem hasTrailingComma_eq (alike : Like same sameBlock one other) :
    other.hasTrailingComma = one.hasTrailingComma := by
  have last (invocation : Invocation) : invocation.hasTrailingComma =
      (invocation.items.map (·.2)).getLast?.any fun comma => !comma.isEmpty := by
    rw [List.getLast?_map, Option.any_map]
    rfl
  rw [last, last, alike.map_commas_eq]

end Invocation.Like

/-! ### What is printed -/

theorem Tokens.visible_flatMap {α : Type} (items : List α) (print : α → Tokens) :
    Tokens.visible (items.flatMap print) = items.flatMap fun item => (print item).visible := by
  induction items with
  | nil => simp
  | cons item items ih => simp [ih]

/-- If code is printed as it was written, the parts are printed as they were written, with their
marks alone. -/
theorem Part.visible_printed {part : Part}
    (code : ∀ written printed, part = .code written printed → printed.visible = written) :
    part.printed.visible = part.loosened.written := by
  cases part with
  | label | comma | arrow => simp [Part.printed, Part.loosened, Part.written, Ident.token]
  | code written printed => exact code written printed rfl

theorem Spelled.visible_tokens {g : Grammar} {tokens : Tokens} {parts : List Part}
    {invocation : Invocation} (spelled : Spelled g tokens parts invocation)
    (code : ∀ written printed, Part.code written printed ∈ parts → printed.visible = written) :
    invocation.tokens.visible = parts.flatMap fun part => part.loosened.written := by
  rw [← spelled.flatMap_printed, Tokens.visible_flatMap]
  refine List.flatMap_congr fun part among => Part.visible_printed ?_
  rintro written printed rfl
  exact code written printed among

namespace Invocation

/-- The tokens printed for an invocation that was read are read again, as an invocation with the
same labels, commas, expressions and block, if the expressions and the block are read back. If they
are printed as they were written, then so is the invocation, with the colons of labels, the commas
and the arrow alone. -/
theorem prints_read_back {tokens : Tokens} {invocation : Invocation}
    (parsed : ofTokens tokens = .ok invocation) :
    (∀ same sameBlock, ReadsBack same sameBlock invocation →
      ∃ again, ofTokens invocation.tokens = .ok again ∧ Like same sameBlock invocation again ∧
        again.size = invocation.size ∧
        again.hasTrailingComma = invocation.hasTrailingComma) ∧
    ∃ parts, Spelled (.ofInput tokens) tokens parts invocation ∧
      parts.flatMap Part.written = tokens.visible ∧
      ((∀ written printed, Part.code written printed ∈ parts → printed.visible = written) →
        invocation.tokens.visible = parts.flatMap fun part => part.loosened.written) := by
  obtain ⟨parts, spelled⟩ := spelled_of_read (run_eq_ok_iff.mp parsed)
  refine ⟨?_, parts, spelled, spelled.flatMap_written, spelled.visible_tokens⟩
  intro same sameBlock reads
  obtain ⟨again, parts, spelled, alike⟩ := spelled_reprint spelled (reads.inPlace spelled)
  have whole := spelled.read (Grammar.refusesEquals_ofDepth _) (Grammar.stopsAtColon_ofDepth _)
  exact ⟨again, run_eq_ok_iff.mpr whole, alike, alike.size_eq, alike.hasTrailingComma_eq⟩

/-- The tokens of `x: ::b, a.., return, => { c }`. -/
def openEnded : Tokens :=
  [.word "x"] ++ Tokens.symbol ":" ++ Tokens.symbol "::" ++ [.word "b"] ++ Tokens.symbol "," ++
    [.word "a"] ++ Tokens.symbol ".." ++ Tokens.symbol "," ++ [.word "return"] ++
    Tokens.symbol "," ++ Tokens.symbol "=>" ++ [.enclosed .brace [.word "c"]]

/-- What they stand for: a label in front of a path from the root, a range without an end, a jump
without a value in front of a comma and an arrow, and a block. -/
def openEndedInvocation : Invocation where
  items := [
    (⟨some ⟨.made "x", .symbol ":"⟩, .path ⟨[], [⟨.symbol "::", .made "b", []⟩]⟩⟩, .symbol ","),
    (⟨none, .range (some (.path ⟨[], [⟨[], .made "a", []⟩]⟩)) (.symbol "..") none⟩, .symbol ","),
    (⟨none, .jump [.word "return"] [] none⟩, .symbol ",")]
  trailing := some ⟨.symbol "=>", ⟨[.expr (.path ⟨[], [⟨[], .made "c", []⟩]⟩) []], .callSite⟩⟩

set_option maxRecDepth 4000 in
theorem ofTokens_openEnded : ofTokens openEnded = .ok openEndedInvocation := by
  have arguments : readItems (.ofInput openEnded) (openEnded.size + 1) (.ofTokens openEnded) =
      .ok (openEndedInvocation.items,
        .ofTokens (Tokens.symbol "=>" ++ [.enclosed .brace [.word "c"]])) :=
    readItems_more rfl rfl rfl <| readItems_more rfl rfl rfl <| readItems_more rfl rfl rfl <|
      readItems_stop rfl _
  exact run_eq_ok_iff.mpr (read_eq_ok_iff.mpr ⟨_, _, _, arguments, rfl, rfl, rfl⟩)

set_option maxRecDepth 4000 in
theorem readsBack_openEnded : ReadsBack (· = ·) (· = ·) openEndedInvocation where
  expr := by
    simp only [openEndedInvocation, List.forall_mem_cons]
    exact ⟨⟨_, rfl, rfl⟩, ⟨_, rfl, rfl⟩, ⟨_, rfl, rfl⟩, nofun⟩
  block := by
    intro trailing found
    cases found
    exact ⟨_, rfl, rfl⟩
  joint := by
    -- A comma is in front of the arrow.
    intro front argument trailing cut
    have last := congrArg List.getLast? cut
    simp [openEndedInvocation, Tokens.symbol, Tokens.symbol.go] at last

theorem prints_read_back_openEnded :
    ofTokens openEnded = .ok openEndedInvocation ∧
      ReadsBack (· = ·) (· = ·) openEndedInvocation ∧
      ∃ again, ofTokens openEndedInvocation.tokens = .ok again ∧
        Like (· = ·) (· = ·) openEndedInvocation again := by
  refine ⟨ofTokens_openEnded, readsBack_openEnded, ?_⟩
  obtain ⟨again, read, alike, -⟩ :=
    (prints_read_back ofTokens_openEnded).1 _ _ readsBack_openEnded
  exact ⟨again, read, alike⟩

/-- The tokens of `x:-1`, in which the colon is joint to the sign. -/
def jointColon : Tokens := [.word "x", .punct ':' .joint .callSite, .punct '-' .alone .callSite,
  .literal "1" .callSite]

/-- What they stand for: a label in front of a sign and a number. -/
def jointColonInvocation : Invocation where
  items := [(⟨some ⟨.made "x", .symbol ":"⟩,
    .unary (.symbol "-") (.literal (.literal "1" .callSite))⟩, [])]
  trailing := none

theorem ofTokens_jointColon : ofTokens jointColon = .ok jointColonInvocation := by
  have arguments : readItems (.ofInput jointColon) (jointColon.size + 1) (.ofTokens jointColon) =
      .ok (jointColonInvocation.items, .ofTokens []) :=
    readItems_last rfl rfl rfl _
  exact run_eq_ok_iff.mpr (read_eq_ok_iff.mpr ⟨_, _, _, arguments, rfl, rfl, rfl⟩)

/-- The expression is printed as it was written, and the label is not: the colon is joint to what
follows it in the input, and printed alone. -/
theorem joint_colon_printed_alone :
    ofTokens jointColon = .ok jointColonInvocation ∧
    Spelled (.ofInput jointColon) jointColon
      [.label (.made "x") .joint .callSite, .code (jointColon.drop 2) (jointColon.drop 2)]
      jointColonInvocation ∧
    jointColonInvocation.tokens ≠ jointColon ∧
    jointColon.render = "x :- 1" ∧ jointColonInvocation.tokens.render = "x : - 1" := by
  refine ⟨ofTokens_jointColon, .bare (.last (.labelled rfl rfl rfl rfl ⟨rfl, rfl⟩)), ?_, ?_, ?_⟩
  · intro same
    injection same with _ same
    injection same with mark
    injection mark with _ spacing
    cases spacing
  · decide
  · decide

end Invocation

end MacroExpansion
