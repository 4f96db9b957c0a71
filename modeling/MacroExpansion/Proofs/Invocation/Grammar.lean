import MacroExpansion.Proofs.Reading.Boundary

/-!
# The grammar of invocations

```text
invocation := (argument ("," argument)* ","?)? ("=>" block)?
argument   := (name ":")? expression
```

`Spelled` is this grammar as a relation between the tokens of an invocation, the parts they fall
into and the invocation they stand for. An expression or a block is whatever its reader takes from
the point where it begins. `parses_iff_spelled` says that an invocation is read exactly if it is
spelled so, that the parts are the whole input, and that the loop over the arguments ends and never
adds an argument or a comma out of turn.
-/

namespace MacroExpansion

@[simp] theorem Input.rest_ofTokens (tokens : Tokens) : (Input.ofTokens tokens).rest = tokens := rfl

/-- At the outermost level a point is told by what is left to read, if nothing was left over. -/
theorem Input.eq_ofTokens {before : Tokens} {after : Input}
    (leads : (Input.ofTokens before).Leads after) (clean : after.leftover = none) :
    after = .ofTokens after.rest := by
  obtain ⟨rest, group, close, leftover⟩ := after
  obtain ⟨-, rfl, rfl, -⟩ := leads
  cases clean
  rfl

open TokenReader

/-! ### Parts of the input -/

/-- A stretch of the input, with all invisible groups opened. -/
inductive Part where
  /-- The name of a label and its colon. -/
  | label (name : Ident) (spacing : Spacing) (place : Span)
  | comma (spacing : Spacing) (place : Span)
  /-- The two characters of an arrow. -/
  | arrow (first : Span) (spacing : Spacing) (place : Span)
  /-- What an expression or a block was read from, and what is printed for it. -/
  | code (written printed : Tokens)

namespace Part

/-- The tokens that the part takes up in the input. -/
def written : Part → Tokens
  | label name spacing place => [name.token, .punct ':' spacing place]
  | comma spacing place => [.punct ',' spacing place]
  | arrow first spacing place => [.punct '=' .joint first, .punct '>' spacing place]
  | code written _ => written

/-- The part with a mark that is not joint to what follows it. -/
def loosened : Part → Part
  | label name _ place => label name .alone place
  | comma _ place => comma .alone place
  | arrow first _ place => arrow first .alone place
  | code written printed => code written printed

/-- The tokens that are printed for the part. -/
def printed : Part → Tokens
  | code _ printed => printed
  | mark => mark.loosened.written

/-- Is it a comma? -/
def isComma : Part → Bool
  | comma _ _ => true
  | _ => false

end Part

/-- From `before` on the reader takes what is `written`, and gets to `after`. -/
structure Reads {α : Type} (reader : TokenReader α) (before : Tokens) (value : α)
    (written after : Tokens) : Prop where
  read : reader (.ofTokens before) = .ok (value, .ofTokens after)
  split : before.visible = written ++ after.visible

namespace Reads

variable {α : Type} {reader : TokenReader α} {before written after : Tokens} {value : α}

/-- A reader that moves forward takes what is between the two points. -/
theorem of_forward [Forward reader] {done : Input}
    (read : reader (.ofTokens before) = .ok (value, done)) (clean : done.leftover = none) :
    done = .ofTokens done.rest ∧ ∃ written, Reads reader before value written done.rest := by
  have leads := Forward.leads read
  have same := Input.eq_ofTokens leads clean
  obtain ⟨written, split⟩ := leads.rest
  exact ⟨same, written, same ▸ read, split.symm⟩

theorem written_ne_nil [Takes reader] (reads : Reads reader before value written after) :
    written ≠ [] := by
  rintro rfl
  have taken : after.visible.length < before.visible.length := Takes.takes reads.read
  rw [reads.split] at taken
  simp at taken

end Reads

/-! ### The grammar -/

/-- An argument is spelled from `before` to `after`. -/
inductive ArgumentAt (g : Grammar) : Tokens → Argument → List Part → Tokens → Prop
  | plain {before : Tokens} {expr : Expr} {written after : Tokens}
      (code : Reads (g.expr true) before expr written after) :
      ArgumentAt g before ⟨none, expr⟩ [.code written expr.tokens] after
  | labelled {before : Tokens} {text : String} {span : Span} {behind : Tokens} {spacing : Spacing}
      {place : Span} {start : Tokens} {expr : Expr} {written after : Tokens}
      (name : before.expose = .ident text span :: behind)
      (free : Identifier.isName text = true)
      (colon : behind.expose = .punct ':' spacing place :: start)
      (single : behind.sees "::" = false)
      (code : Reads (g.expr true) start expr written after) :
      ArgumentAt g before ⟨some ⟨⟨text, span⟩, [.punct ':' .alone place]⟩, expr⟩
        [.label ⟨text, span⟩ spacing place, .code written expr.tokens] after

/-- Arguments and commas are spelled from `before` to `after`. -/
inductive ItemsAt (g : Grammar) : Tokens → List (Argument × Tokens) → List Part → Tokens → Prop
  | none {before : Tokens} : ItemsAt g before [] [] before
  | last {before : Tokens} {argument : Argument} {parts : List Part} {after : Tokens}
      (first : ArgumentAt g before argument parts after) :
      ItemsAt g before [(argument, [])] parts after
  | more {before : Tokens} {argument : Argument} {parts : List Part} {between : Tokens}
      {spacing : Spacing} {place : Span} {behind : Tokens} {items : List (Argument × Tokens)}
      {others : List Part} {after : Tokens}
      (first : ArgumentAt g before argument parts between)
      (comma : between.expose = .punct ',' spacing place :: behind)
      (rest : ItemsAt g behind items others after) :
      ItemsAt g before ((argument, [.punct ',' .alone place]) :: items)
        (parts ++ .comma spacing place :: others) after

/-- The tokens spell an invocation, in these parts. -/
inductive Spelled (g : Grammar) (tokens : Tokens) : List Part → Invocation → Prop
  | bare {items : List (Argument × Tokens)} {parts : List Part}
      (arguments : ItemsAt g tokens items parts []) :
      Spelled g tokens parts ⟨items, none⟩
  | trailing {items : List (Argument × Tokens)} {parts : List Part} {between : Tokens}
      {first : Span} {middle : Tokens} {spacing : Spacing} {place : Span} {behind : Tokens}
      {block : Block} {written : Tokens}
      (arguments : ItemsAt g tokens items parts between)
      (equals : between.expose = .punct '=' .joint first :: middle)
      (greater : middle.expose = .punct '>' spacing place :: behind)
      (code : Reads g.block behind block written []) :
      Spelled g tokens
        (parts ++ [.arrow first spacing place, .code written block.tokens])
        ⟨items, some ⟨[.punct '=' .joint first, .punct '>' .alone place], block⟩⟩

/-! ### What is read is spelled -/

section Forward

variable (g : Grammar) [g.MovesForward]

instance : Forward (Argument.read g) := by unfold Argument.read; infer_instance

instance (bound : Nat) : Forward (Invocation.readItems g bound) := by
  induction bound with
  | zero => unfold Invocation.readItems; infer_instance
  | succ bound ih => unfold Invocation.readItems; infer_instance

instance : Forward (Invocation.readTrailing g) := by
  unfold Invocation.readTrailing; infer_instance

instance : Forward (Invocation.read g) := by unfold Invocation.read; infer_instance

variable {g}

theorem Argument.at_of_read {before : Tokens} {argument : Argument} {done : Input}
    (read : Argument.read g (.ofTokens before) = .ok (argument, done))
    (clean : done.leftover = none) :
    done = .ofTokens done.rest ∧ ∃ parts, ArgumentAt g before argument parts done.rest := by
  unfold Argument.read at read
  rw [bind_of_ok (ahead_eq _)] at read
  split at read
  · rename_i label
    obtain ⟨name, span, behind, front, free, colon⟩ := Argument.seesLabel_iff.mp label
    rw [bind_of_ok (Grammar.ident_of_name front free)] at read
    obtain ⟨mark, between, marked, read⟩ := bind_eq_ok_iff.mp read
    obtain ⟨spacing, place, start, next, rfl, rfl⟩ :=
      (operator_single_iff (c := ':') rfl).mp marked
    obtain ⟨expr, there, code, read⟩ := bind_eq_ok_iff.mp read
    obtain ⟨rfl, rfl⟩ := pure_eq_ok_iff.mp read
    have single : Tokens.sees "::" behind = false := by
      simpa using (Bool.and_eq_true_iff.mp colon).2
    have code : g.expr true (.ofTokens start) = .ok (expr, there) := code
    obtain ⟨same, written, code⟩ := Reads.of_forward code clean
    exact ⟨same, _, .labelled front free next single code⟩
  · obtain ⟨expr, there, code, read⟩ := bind_eq_ok_iff.mp read
    obtain ⟨rfl, rfl⟩ := pure_eq_ok_iff.mp read
    obtain ⟨same, written, code⟩ := Reads.of_forward code clean
    exact ⟨same, _, .plain code⟩

namespace Invocation

theorem itemsAt_of_readItems {bound : Nat} {before : Tokens} {items : List (Argument × Tokens)}
    {done : Input} (read : readItems g bound (.ofTokens before) = .ok (items, done))
    (clean : done.leftover = none) :
    done = .ofTokens done.rest ∧ ∃ parts, ItemsAt g before items parts done.rest := by
  induction bound generalizing before items with
  | zero =>
      obtain ⟨rfl, rfl⟩ := pure_eq_ok_iff.mp read
      exact ⟨rfl, _, .none⟩
  | succ bound ih =>
      rw [readItems, bind_of_ok (ahead_eq _)] at read
      split at read
      · obtain ⟨rfl, rfl⟩ := pure_eq_ok_iff.mp read
        exact ⟨rfl, _, .none⟩
      · obtain ⟨argument, between, first, read⟩ := bind_eq_ok_iff.mp read
        rw [bind_of_ok (ahead_eq _)] at read
        split at read
        · obtain ⟨mark, there, marked, read⟩ := bind_eq_ok_iff.mp read
          obtain ⟨others, last, rest, read⟩ := bind_eq_ok_iff.mp read
          obtain ⟨rfl, rfl⟩ := pure_eq_ok_iff.mp read
          have before := (Forward.leads marked).clean ((Forward.leads rest).clean clean)
          obtain ⟨same, parts, first⟩ := Argument.at_of_read first before
          rw [same] at marked
          obtain ⟨spacing, place, behind, next, rfl, rfl⟩ :=
            (operator_single_iff (c := ',') rfl).mp marked
          have rest : readItems g bound (.ofTokens behind) = .ok (others, last) := rest
          obtain ⟨same, others, rest⟩ := ih rest
          exact ⟨same, _, .more first next rest⟩
        · obtain ⟨rfl, rfl⟩ := pure_eq_ok_iff.mp read
          obtain ⟨same, parts, first⟩ := Argument.at_of_read first clean
          exact ⟨same, _, .last first⟩

omit [g.MovesForward] in
/-- Behind the arguments and the block nothing is left. -/
theorem read_eq_ok_iff {input after : Input} {invocation : Invocation} :
    read g input = .ok (invocation, after) ↔ ∃ items trailing between,
      readItems g (input.rest.size + 1) input = .ok (items, between) ∧
        readTrailing g between = .ok (trailing, after) ∧ after.rest = [] ∧
        invocation = ⟨items, trailing⟩ := by
  unfold read
  rw [bind_of_ok (ahead_eq input)]
  constructor
  · intro whole
    obtain ⟨items, between, arguments, whole⟩ := bind_eq_ok_iff.mp whole
    obtain ⟨trailing, there, block, whole⟩ := bind_eq_ok_iff.mp whole
    obtain ⟨done, last, look, whole⟩ := bind_eq_ok_iff.mp whole
    cases look
    split at whole
    · rename_i ended
      obtain ⟨rfl, rfl⟩ := pure_eq_ok_iff.mp whole
      exact ⟨items, trailing, between, arguments, block, List.isEmpty_iff.mp ended, rfl⟩
    · exact absurd whole Fails.fails
  · rintro ⟨items, trailing, between, arguments, block, ended, rfl⟩
    rw [bind_of_ok arguments, bind_of_ok block]
    have look : atEnd after = .ok (true, after) := by simp [atEnd, ended]
    rw [bind_of_ok look]
    rfl

/-- An invocation is read if its reader gets to the end with nothing left over. -/
theorem run_eq_ok_iff {tokens : Tokens} {invocation : Invocation} :
    run (read g) tokens = .ok invocation ↔
      read g (.ofTokens tokens) = .ok (invocation, .ofTokens []) := by
  constructor
  · intro ran
    unfold run at ran
    split at ran
    · cases ran
    · rename_i found done whole
      split at ran
      · cases ran
      · rename_i nothing
        cases ran
        obtain ⟨clean, -⟩ : done.leftover = none ∧ done.rest.leftover? .invisible = none := by
          simpa using nothing
        have same := Input.eq_ofTokens (Forward.leads whole) clean
        obtain ⟨-, -, -, -, -, ended, -⟩ := read_eq_ok_iff.mp whole
        rw [ended] at same
        rw [whole, same]
  · intro whole
    rw [run, whole]
    rfl

theorem spelled_of_read {tokens : Tokens} {invocation : Invocation}
    (whole : read g (.ofTokens tokens) = .ok (invocation, .ofTokens [])) :
    ∃ parts, Spelled g tokens parts invocation := by
  obtain ⟨items, trailing, between, arguments, block, -, rfl⟩ := read_eq_ok_iff.mp whole
  obtain ⟨same, parts, spelled⟩ :=
    itemsAt_of_readItems arguments ((Forward.leads block).clean rfl)
  rw [same] at block
  unfold readTrailing at block
  rw [bind_of_ok (ahead_eq _)] at block
  split at block
  · obtain ⟨arrow, there, marked, block⟩ := bind_eq_ok_iff.mp block
    obtain ⟨first, middle, spacing, place, behind, equals, greater, rfl, rfl⟩ :=
      (operator_double_iff (c := '=') (d := '>') rfl).mp marked
    obtain ⟨value, last, code, block⟩ := bind_eq_ok_iff.mp block
    obtain ⟨rfl, rfl⟩ := pure_eq_ok_iff.mp block
    have code : g.block (.ofTokens behind) = .ok (value, .ofTokens []) := code
    obtain ⟨-, written, code⟩ := Reads.of_forward code rfl
    exact ⟨_, .trailing spelled equals greater code⟩
  · obtain ⟨rfl, ended⟩ := pure_eq_ok_iff.mp block
    have ended : between.rest = [] := congrArg Input.rest ended
    rw [ended] at spelled
    exact ⟨parts, .bare spelled⟩

end Invocation

end Forward

/-! ### What is spelled is read -/

/-- Behind an argument the tokens end, or a comma or an arrow follows. -/
def Tokens.Separates (tokens : Tokens) : Prop :=
  tokens = [] ∨ tokens.sees "," = true ∨ tokens.sees "=>" = true

/-- A separator is no colon. -/
theorem Tokens.Separates.seesColon {tokens : Tokens} (separates : tokens.Separates) :
    tokens.seesColon = false := by
  obtain rfl | comma | arrow := separates
  · rfl
  · obtain ⟨spacing, span, rest, front⟩ := Tokens.front_of_sees (c := ',') rfl comma
    simp [Tokens.seesColon, Tokens.sees, Tokens.seesChars, front]
  · obtain ⟨spacing, span, rest, front⟩ := Tokens.front_of_sees (c := '=') rfl arrow
    simp [Tokens.seesColon, Tokens.sees, Tokens.seesChars, front]

section Complete

variable {g : Grammar} [g.TakesToken]

namespace ArgumentAt

variable {before after : Tokens} {argument : Argument} {parts : List Part}

/-- An argument takes up tokens. -/
theorem length_lt (spelled : ArgumentAt g before argument parts after) :
    after.visible.length < before.visible.length := by
  cases spelled with
  | plain code => exact Takes.takes code.read
  | labelled name free colon single code =>
      have taken := Takes.takes code.read
      rw [Tokens.visible_of_expose name, Tokens.visible_of_expose colon]
      simp only [Input.ofTokens, List.length_cons] at taken ⊢
      omega

/-- No argument begins at the end or at an arrow. -/
theorem begins (refuses : g.RefusesEquals) (spelled : ArgumentAt g before argument parts after) :
    (before.isEmpty || before.sees "=>") = false := by
  cases spelled with
  | plain code =>
      have some := Grammar.expose_ne_nil_of_read g code.read
      have noArrow : before.sees "=>" = false := by
        rw [Bool.eq_false_iff]
        intro arrow
        obtain ⟨spacing, span, rest, front⟩ := Tokens.front_of_sees (c := '=') rfl arrow
        have equals : before.sees "=" = true := Tokens.sees_of_front (c := '=') rfl front
        exact (refuses true (.ofTokens before) _ _ equals).1 code.read
      cases before with
      | nil => exact absurd rfl some
      | cons token rest => simpa using noArrow
  | labelled name free colon single code =>
      cases before with
      | nil => cases name
      | cons token rest => simp [Tokens.sees, Tokens.seesChars, name]

omit [g.TakesToken] in
/-- In front of a separator an argument has a label exactly where one is seen. -/
theorem isSome_label_iff (stops : g.StopsAtColon)
    (spelled : ArgumentAt g before argument parts after) (separates : after.Separates) :
    argument.label.isSome = true ↔ Argument.seesLabel before = true := by
  cases spelled with
  | plain code =>
      simp only [Option.isSome_none, Bool.false_eq_true, false_iff]
      intro label
      have colon := stops true (.ofTokens before) _ _ label (.inl code.read) rfl
      exact nomatch separates.seesColon.symm.trans colon
  | labelled name free colon single code =>
      simp only [Option.isSome_some, true_iff]
      refine Argument.seesLabel_iff.mpr ⟨_, _, _, name, free, ?_⟩
      have seen : Tokens.sees ":" _ = true := Tokens.sees_of_front (c := ':') rfl colon
      simp [Tokens.seesColon, seen, single]

omit [g.TakesToken] in
theorem read (stops : g.StopsAtColon) (spelled : ArgumentAt g before argument parts after)
    (separates : after.Separates) :
    Argument.read g (.ofTokens before) = .ok (argument, .ofTokens after) := by
  have label := spelled.isSome_label_iff stops separates
  unfold Argument.read
  rw [bind_of_ok (ahead_eq _)]
  cases spelled with
  | plain code =>
      have missing : Argument.seesLabel (Input.ofTokens before).rest = false := by
        simpa using label
      simp only [missing, Bool.false_eq_true, if_false]
      rw [bind_of_ok code.read]
      rfl
  | labelled name free colon single code =>
      rename_i text span behind spacing place start expr written
      have seen : Argument.seesLabel (Input.ofTokens before).rest = true := by simpa using label
      have named : ident (.ofTokens before) = .ok (⟨text, span⟩, .ofTokens behind) :=
        Grammar.ident_of_name name free
      have marked : operator ":" (.ofTokens behind) =
          .ok ([.punct ':' .alone place], .ofTokens start) :=
        (operator_single_iff (c := ':') rfl).mpr ⟨spacing, place, start, colon, rfl, rfl⟩
      simp only [seen, if_true]
      rw [bind_of_ok named, bind_of_ok marked, bind_of_ok code.read]
      rfl

end ArgumentAt

/-! ### One round of the loop over the arguments -/

namespace Invocation

omit [g.TakesToken]

variable {input between : Input} {argument : Argument}

theorem readItems_stop (stop : (input.rest.isEmpty || input.rest.sees "=>") = true) (bound : Nat) :
    readItems g (bound + 1) input = .ok ([], input) := by
  rw [readItems, bind_of_ok (ahead_eq input), if_pos stop]
  rfl

theorem readItems_last (goesOn : (input.rest.isEmpty || input.rest.sees "=>") = false)
    (first : Argument.read g input = .ok (argument, between))
    (noComma : between.rest.sees "," = false) (bound : Nat) :
    readItems g (bound + 1) input = .ok ([(argument, [])], between) := by
  rw [readItems, bind_of_ok (ahead_eq input), if_neg (by simp [goesOn]), bind_of_ok first,
    bind_of_ok (ahead_eq between), if_neg (by simp [noComma])]
  rfl

theorem readItems_more (goesOn : (input.rest.isEmpty || input.rest.sees "=>") = false)
    (first : Argument.read g input = .ok (argument, between)) {mark : Tokens} {behind : Input}
    (comma : operator "," between = .ok (mark, behind)) {bound : Nat}
    {items : List (Argument × Tokens)} {after : Input}
    (rest : readItems g bound behind = .ok (items, after)) :
    readItems g (bound + 1) input = .ok ((argument, mark) :: items, after) := by
  obtain ⟨spacing, span, more, front, -⟩ := (operator_single_iff (c := ',') rfl).mp comma
  have seen : between.rest.sees "," = true := Tokens.sees_of_front (c := ',') rfl front
  rw [readItems, bind_of_ok (ahead_eq input), if_neg (by simp [goesOn]), bind_of_ok first,
    bind_of_ok (ahead_eq between), if_pos seen, bind_of_ok comma, bind_of_ok rest]
  rfl

end Invocation

namespace ItemsAt

variable {before after : Tokens} {items : List (Argument × Tokens)} {parts : List Part}

/-- Arguments are read up to the end or to an arrow, if there is room for one more round than there
are tokens. -/
theorem readItems (refuses : g.RefusesEquals) (stops : g.StopsAtColon)
    (spelled : ItemsAt g before items parts after) (ended : after = [] ∨ after.sees "=>" = true)
    {bound : Nat} (room : before.visible.length < bound) :
    Invocation.readItems g bound (.ofTokens before) = .ok (items, .ofTokens after) := by
  obtain ⟨bound, rfl⟩ := Nat.exists_eq_succ_of_ne_zero (Nat.ne_of_gt (Nat.zero_lt_of_lt room))
  induction spelled generalizing bound with
  | none =>
      refine Invocation.readItems_stop ?_ bound
      obtain rfl | arrow := ended
      · rfl
      · simpa using Or.inr arrow
  | last first =>
      refine Invocation.readItems_last (first.begins refuses)
        (first.read stops (ended.imp id .inr)) ?_ bound
      obtain rfl | arrow := ended
      · rfl
      · obtain ⟨spacing, span, rest, front⟩ := Tokens.front_of_sees (c := '=') rfl arrow
        simp [Tokens.sees, Tokens.seesChars, front]
  | more first comma rest ih =>
      have shorter := first.length_lt
      rw [Tokens.visible_of_expose comma, List.length_cons] at shorter
      obtain ⟨bound, rfl⟩ := Nat.exists_eq_succ_of_ne_zero (n := bound) (by omega)
      have seen : Tokens.sees "," _ = true := Tokens.sees_of_front (c := ',') rfl comma
      exact Invocation.readItems_more (first.begins refuses)
        (first.read stops (.inr (.inl seen)))
        ((operator_single_iff (c := ',') rfl).mpr ⟨_, _, _, comma, rfl, rfl⟩)
        (ih ended bound (by omega))

end ItemsAt

namespace Spelled

variable {tokens : Tokens} {parts : List Part} {invocation : Invocation}

theorem read (refuses : g.RefusesEquals) (stops : g.StopsAtColon)
    (spelled : Spelled g tokens parts invocation) :
    Invocation.read g (.ofTokens tokens) = .ok (invocation, .ofTokens []) := by
  have room : tokens.visible.length < tokens.size + 1 :=
    Nat.lt_succ_of_le tokens.length_visible_le
  refine Invocation.read_eq_ok_iff.mpr ?_
  cases spelled with
  | bare arguments =>
      refine ⟨_, none, _, arguments.readItems refuses stops (.inl rfl) room, ?_, rfl, rfl⟩
      rfl
  | trailing arguments equals greater code =>
      rename_i items parts between first middle spacing place behind block written
      have marked : operator "=>" (.ofTokens between) =
          .ok ([.punct '=' .joint first, .punct '>' .alone place], .ofTokens behind) :=
        (operator_double_iff (c := '=') (d := '>') rfl).mpr
          ⟨first, middle, spacing, place, behind, equals, greater, rfl, rfl⟩
      have arrow : between.sees "=>" = true := by
        simp [Tokens.sees, Tokens.seesChars, equals, greater]
      refine ⟨items, _, _, arguments.readItems refuses stops (.inr arrow) room, ?_, rfl, rfl⟩
      unfold Invocation.readTrailing
      rw [bind_of_ok (ahead_eq _), Input.rest_ofTokens, if_pos arrow, bind_of_ok marked,
        bind_of_ok code.read]
      rfl

end Spelled

end Complete

/-! ### The parts are the whole input -/

section Partition

variable {g : Grammar}

theorem ArgumentAt.flatMap_written {before after : Tokens} {argument : Argument}
    {parts : List Part} (spelled : ArgumentAt g before argument parts after) :
    parts.flatMap Part.written ++ after.visible = before.visible := by
  cases spelled with
  | plain code => simp [Part.written, code.split]
  | labelled name free colon single code =>
      rw [Tokens.visible_of_expose name, Tokens.visible_of_expose colon, code.split]
      simp [Part.written, Ident.token]

theorem ItemsAt.flatMap_written {before after : Tokens} {items : List (Argument × Tokens)}
    {parts : List Part} (spelled : ItemsAt g before items parts after) :
    parts.flatMap Part.written ++ after.visible = before.visible := by
  induction spelled with
  | none => rfl
  | last first => exact first.flatMap_written
  | more first comma rest ih =>
      rw [← first.flatMap_written, Tokens.visible_of_expose comma, ← ih]
      simp [Part.written]

theorem Spelled.flatMap_written {tokens : Tokens} {parts : List Part} {invocation : Invocation}
    (spelled : Spelled g tokens parts invocation) :
    parts.flatMap Part.written = tokens.visible := by
  cases spelled with
  | bare arguments => simpa using arguments.flatMap_written
  | trailing arguments equals greater code =>
      rw [← arguments.flatMap_written, Tokens.visible_of_expose equals,
        Tokens.visible_of_expose greater, code.split]
      simp [Part.written]

/-! ### The parts are printed one by one -/

theorem ArgumentAt.flatMap_printed {before after : Tokens} {argument : Argument}
    {parts : List Part} (spelled : ArgumentAt g before argument parts after) :
    parts.flatMap Part.printed = argument.tokens := by
  cases spelled <;> simp [Part.printed, Part.loosened, Part.written, Argument.tokens, Label.tokens]

theorem ItemsAt.flatMap_printed {before after : Tokens} {items : List (Argument × Tokens)}
    {parts : List Part} (spelled : ItemsAt g before items parts after) :
    parts.flatMap Part.printed = items.flatMap fun item => item.1.tokens ++ item.2 := by
  induction spelled with
  | none => rfl
  | last first => simp [first.flatMap_printed]
  | more first comma rest ih =>
      rw [List.flatMap_append, first.flatMap_printed, List.flatMap_cons, ih]
      simp [Part.printed, Part.loosened, Part.written]

theorem Spelled.flatMap_printed {tokens : Tokens} {parts : List Part} {invocation : Invocation}
    (spelled : Spelled g tokens parts invocation) :
    parts.flatMap Part.printed = invocation.tokens := by
  cases spelled with
  | bare arguments => simp [Invocation.tokens, arguments.flatMap_printed]
  | trailing arguments equals greater code =>
      rw [List.flatMap_append, arguments.flatMap_printed]
      simp [Invocation.tokens, Trailing.tokens, Part.printed, Part.loosened, Part.written]

section Sizes

variable [g.TakesToken]

theorem ArgumentAt.written_ne_nil {before after : Tokens} {argument : Argument}
    {parts : List Part} (spelled : ArgumentAt g before argument parts after) :
    ∀ part ∈ parts, part.written ≠ [] := by
  cases spelled with
  | plain code => simpa [Part.written] using code.written_ne_nil
  | labelled name free colon single code =>
      simpa [Part.written] using code.written_ne_nil

theorem ItemsAt.written_ne_nil {before after : Tokens} {items : List (Argument × Tokens)}
    {parts : List Part} (spelled : ItemsAt g before items parts after) :
    ∀ part ∈ parts, part.written ≠ [] := by
  induction spelled with
  | none => simp
  | last first => exact first.written_ne_nil
  | more first comma rest ih =>
      intro part among
      obtain early | rfl | late := by simpa using among
      · exact first.written_ne_nil part early
      · simp [Part.written]
      · exact ih part late

theorem Spelled.written_ne_nil [g.MovesForward] {tokens : Tokens} {parts : List Part}
    {invocation : Invocation} (spelled : Spelled g tokens parts invocation) :
    ∀ part ∈ parts, part.written ≠ [] := by
  cases spelled with
  | bare arguments => exact arguments.written_ne_nil
  | trailing arguments equals greater code =>
      intro part among
      obtain early | rfl | rfl := by simpa using among
      · exact arguments.written_ne_nil part early
      · simp [Part.written]
      · exact code.written_ne_nil

end Sizes

/-! ### Commas -/

theorem ArgumentAt.countP_isComma {before after : Tokens} {argument : Argument}
    {parts : List Part} (spelled : ArgumentAt g before argument parts after) :
    parts.countP Part.isComma = 0 := by
  cases spelled <;> simp [Part.isComma]

theorem ItemsAt.countP_isComma {before after : Tokens} {items : List (Argument × Tokens)}
    {parts : List Part} (spelled : ItemsAt g before items parts after) :
    parts.countP Part.isComma = items.length ∨ parts.countP Part.isComma + 1 = items.length := by
  induction spelled with
  | none => exact .inl rfl
  | last first =>
      right
      rw [first.countP_isComma]
      rfl
  | more first comma rest ih =>
      rw [List.countP_append, first.countP_isComma, List.countP_cons_of_pos rfl, List.length_cons]
      omega

theorem Spelled.countP_isComma {tokens : Tokens} {parts : List Part} {invocation : Invocation}
    (spelled : Spelled g tokens parts invocation) :
    parts.countP Part.isComma = invocation.size ∨
      parts.countP Part.isComma + 1 = invocation.size := by
  cases spelled with
  | bare arguments => exact arguments.countP_isComma
  | trailing arguments equals greater code =>
      rw [List.countP_append]
      simpa [Part.isComma, Invocation.size] using arguments.countP_isComma

/-! ### Labels -/

/-- A name that is no reserved word, directly in front of a colon that does not begin the separator
of a path. -/
def Argument.LabelFirst (tokens : Tokens) : Prop :=
  ∃ name span spacing place rest, tokens = .ident name span :: .punct ':' spacing place :: rest ∧
    Identifier.isName name = true ∧
    ¬(spacing = .joint ∧ ∃ spacing' place' more, rest = .punct ':' spacing' place' :: more)

/-- The reader looks for just that. -/
theorem Argument.seesLabel_iff_labelFirst {tokens : Tokens} :
    Argument.seesLabel tokens = true ↔ Argument.LabelFirst tokens.visible := by
  rw [Argument.seesLabel_iff]
  constructor
  · rintro ⟨name, span, behind, front, free, colon⟩
    obtain ⟨single, double⟩ := Bool.and_eq_true_iff.mp colon
    obtain ⟨spacing, place, rest, next⟩ := Tokens.front_of_sees (c := ':') rfl single
    refine ⟨name, span, spacing, place, Tokens.visible rest, ?_, free, ?_⟩
    · rw [Tokens.visible_of_expose front, Tokens.visible_of_expose next]
    · rw [← Tokens.sees_separator_iff next]
      simpa using double
  · rintro ⟨name, span, spacing, place, rest, seen, free, single⟩
    obtain ⟨behind, front, seen⟩ := Tokens.expose_of_visible seen
    obtain ⟨start, next, rfl⟩ := Tokens.expose_of_visible seen
    have seen : Tokens.sees ":" behind = true := Tokens.sees_of_front (c := ':') rfl next
    rw [← Tokens.sees_separator_iff next] at single
    refine ⟨name, span, behind, front, free, ?_⟩
    simpa [Tokens.seesColon, seen] using single

theorem ArgumentAt.label_iff (stops : g.StopsAtColon) {before after : Tokens}
    {argument : Argument} {parts : List Part}
    (spelled : ArgumentAt g before argument parts after) (separates : after.Separates) :
    argument.label.isSome = true ↔ Argument.LabelFirst before.visible :=
  (spelled.isSome_label_iff stops separates).trans Argument.seesLabel_iff_labelFirst

/-- Each argument begins where the arguments in front of it end, and has a label exactly if one is
seen there. -/
theorem ItemsAt.label_iff (stops : g.StopsAtColon) {before after : Tokens}
    {front back : List (Argument × Tokens)} {argument : Argument} {comma : Tokens}
    {parts : List Part}
    (spelled : ItemsAt g before (front ++ (argument, comma) :: back) parts after)
    (separates : after.Separates) :
    ∃ start earlier own rest, ItemsAt g before front earlier start ∧
      ArgumentAt g start argument own rest ∧
      (argument.label.isSome = true ↔ Argument.LabelFirst start.visible) := by
  induction front generalizing before parts with
  | nil =>
      cases spelled with
      | last first =>
          exact ⟨before, [], _, _, .none, first, first.label_iff stops separates⟩
      | more first comma rest =>
          have seen : Tokens.sees "," _ = true := Tokens.sees_of_front (c := ',') rfl comma
          exact ⟨before, [], _, _, .none, first,
            first.label_iff stops (.inr (.inl seen))⟩
  | cons item front ih =>
      generalize whole : item :: front ++ (argument, comma) :: back = items at spelled
      cases spelled with
      | none => cases whole
      | last first => simp at whole
      | more first mark rest =>
          obtain ⟨rfl, rfl⟩ := List.cons.inj whole
          obtain ⟨start, earlier, own, others, items, spelled, label⟩ := ih rest
          exact ⟨start, _, own, others, .more first mark items, spelled, label⟩

theorem Spelled.label_iff (stops : g.StopsAtColon) {tokens : Tokens} {parts : List Part}
    {invocation : Invocation} (spelled : Spelled g tokens parts invocation)
    {front back : List (Argument × Tokens)} {argument : Argument} {comma : Tokens}
    (cut : invocation.items = front ++ (argument, comma) :: back) :
    ∃ start earlier own rest, ItemsAt g tokens front earlier start ∧
      ArgumentAt g start argument own rest ∧
      (argument.label.isSome = true ↔ Argument.LabelFirst start.visible) := by
  cases spelled with
  | bare arguments =>
      cases cut
      exact arguments.label_iff stops (.inl rfl)
  | trailing arguments equals greater code =>
      cases cut
      exact arguments.label_iff stops (.inr (.inr (by
        simp [Tokens.sees, Tokens.seesChars, equals, greater])))

end Partition

/-! ### The loop ends -/

namespace TokenReader

variable {α β : Type}

theorem bind_of_error {first : TokenReader α} {next : α → TokenReader β} {input : Input}
    {error : SyntaxError} (failed : first input = .error error) :
    (first >>= next) input = .error error := by
  change (first input >>= fun found => next found.1 found.2) = _
  rw [failed]
  rfl

theorem bind_congr_left {first first' : TokenReader α} {next : α → TokenReader β} {input : Input}
    (same : first input = first' input) : (first >>= next) input = (first' >>= next) input := by
  change (first input >>= fun found => next found.1 found.2) = _
  rw [same]
  rfl

/-- Only what is found matters to what follows. -/
theorem bind_congr_right {first : TokenReader α} {next next' : α → TokenReader β} {input : Input}
    (same : ∀ found between, first input = .ok (found, between) →
      next found between = next' found between) :
    (first >>= next) input = (first >>= next') input := by
  cases one : first input with
  | error error => rw [bind_of_error one, bind_of_error one]
  | ok found => rw [bind_of_ok one, bind_of_ok one, same _ _ one]

end TokenReader

section Loop

variable {g : Grammar} [g.TakesToken]

instance : Takes (Argument.read g) := by unfold Argument.read; infer_instance

/-- More rounds than there are tokens are never made. -/
theorem Invocation.readItems_eq_of_room {input : Input} {first second : Nat}
    (room : input.rest.visible.length < first) (room' : input.rest.visible.length < second) :
    readItems g first input = readItems g second input := by
  induction first generalizing input second with
  | zero => exact absurd room (Nat.not_lt_zero _)
  | succ first ih =>
      cases second with
      | zero => exact absurd room' (Nat.not_lt_zero _)
      | succ second =>
          rw [readItems, readItems, bind_of_ok (ahead_eq input), bind_of_ok (ahead_eq input)]
          split
          · rfl
          · refine bind_congr_right fun argument between read => ?_
            have shorter := Takes.takes read
            rw [bind_of_ok (ahead_eq between), bind_of_ok (ahead_eq between)]
            split
            · refine bind_congr_right fun mark behind comma => bind_congr_left ?_
              have left := (Forward.leads comma).rest.length_le
              exact ih (by omega) (by omega)
            · rfl

end Loop

/-! ### Arguments and commas are added in turn -/

/-- Arguments and commas as they are added one by one: arguments with a comma behind them, and one
that has none yet. -/
structure Row where
  pairs : List (Argument × Tokens)
  last : Option Argument

namespace Row

/-- Nothing was added yet. -/
def empty : Row := ⟨[], none⟩

/-- Add an argument, which is an error behind one without a comma. -/
def pushArgument? (row : Row) (argument : Argument) : Option Row :=
  match row.last with
  | none => some ⟨row.pairs, some argument⟩
  | some _ => none

/-- Add a comma, which is an error unless an argument without one is in front of it. -/
def pushComma? (row : Row) (comma : Tokens) : Option Row :=
  match row.last with
  | none => none
  | some argument => some ⟨row.pairs ++ [(argument, comma)], none⟩

/-- The arguments with the commas behind them. -/
def items (row : Row) : List (Argument × Tokens) :=
  row.pairs ++ row.last.toList.map fun argument => (argument, [])

/-- Read arguments and commas and add them as they come, or fail to add one. -/
def read (g : Grammar) : Nat → Row → TokenReader (Option Row)
  | 0, row => pure (some row)
  | bound + 1, row => do
    let here ← ahead
    if here.isEmpty || here.sees "=>" then pure (some row)
    else
      let argument ← Argument.read g
      match row.pushArgument? argument with
      | none => pure none
      | some row =>
        if (← ahead).sees "," then
          let comma ← operator ","
          match row.pushComma? comma with
          | none => pure none
          | some row => read g bound row
        else pure (some row)

/-- Nothing is added out of turn, and the same is read. -/
theorem read_eq_readItems (g : Grammar) (bound : Nat) (input : Input)
    (pairs : List (Argument × Tokens)) :
    (read g bound ⟨pairs, none⟩ input).map (Prod.map (Option.map items) id) =
      (Invocation.readItems g bound input).map
        (Prod.map (fun items => some (pairs ++ items)) id) := by
  induction bound generalizing input pairs with
  | zero =>
      rw [read, Invocation.readItems]
      rfl
  | succ bound ih =>
      rw [read, Invocation.readItems, bind_of_ok (ahead_eq input), bind_of_ok (ahead_eq input)]
      split
      · rfl
      · cases first : Argument.read g input with
        | error error =>
            rw [bind_of_error first, bind_of_error first]
            rfl
        | ok found =>
            obtain ⟨argument, between⟩ := found
            rw [bind_of_ok first, bind_of_ok first]
            simp only [pushArgument?]
            rw [bind_of_ok (ahead_eq between), bind_of_ok (ahead_eq between)]
            split
            · cases comma : operator "," between with
              | error error =>
                  rw [bind_of_error comma, bind_of_error comma]
                  rfl
              | ok found =>
                  obtain ⟨mark, behind⟩ := found
                  rw [bind_of_ok comma, bind_of_ok comma]
                  simp only [pushComma?]
                  rw [ih]
                  cases rest : Invocation.readItems g bound behind with
                  | error error =>
                      rw [bind_of_error rest]
                      rfl
                  | ok found =>
                      rw [bind_of_ok rest]
                      change Except.ok (some (pairs ++ [(argument, mark)] ++ found.1), found.2) =
                        Except.ok (some (pairs ++ (argument, mark) :: found.1), found.2)
                      rw [List.append_assoc]
                      rfl
            · rfl

end Row

namespace Invocation

/-- An invocation is read exactly if it is spelled by the grammar. Its parts are the whole input,
each of them takes up a token, and they are printed in the same order; commas stand between the
arguments and may stand behind the last; and an argument has a label exactly if it begins with one.
The loop over the arguments never makes more rounds than there are tokens, and adds arguments and
commas in turn only. -/
theorem parses_iff_spelled (tokens : Tokens) :
    (∀ invocation, ofTokens tokens = .ok invocation ↔
      ∃ parts, Spelled (.ofInput tokens) tokens parts invocation) ∧
    (∀ invocation parts, Spelled (.ofInput tokens) tokens parts invocation →
      parts.flatMap Part.written = tokens.visible ∧
      (∀ part ∈ parts, part.written ≠ []) ∧
      parts.flatMap Part.printed = invocation.tokens ∧
      (parts.countP Part.isComma = invocation.size ∨
        parts.countP Part.isComma + 1 = invocation.size) ∧
      ∀ front argument comma back, invocation.items = front ++ (argument, comma) :: back →
        ∃ start earlier own rest, ItemsAt (.ofInput tokens) tokens front earlier start ∧
          ArgumentAt (.ofInput tokens) start argument own rest ∧
          (argument.label.isSome = true ↔ Argument.LabelFirst start.visible)) ∧
    (∀ bound, tokens.size < bound →
      readItems (.ofInput tokens) bound (.ofTokens tokens) =
        readItems (.ofInput tokens) (tokens.size + 1) (.ofTokens tokens)) ∧
    ∀ bound, (Row.read (.ofInput tokens) bound .empty (.ofTokens tokens)).map
        (Prod.map (Option.map Row.items) id) =
      (readItems (.ofInput tokens) bound (.ofTokens tokens)).map (Prod.map some id) := by
  have refuses : (Grammar.ofInput tokens).RefusesEquals := Grammar.refusesEquals_ofDepth _
  have stops : (Grammar.ofInput tokens).StopsAtColon := Grammar.stopsAtColon_ofDepth _
  refine ⟨?_, ?_, ?_, ?_⟩
  · intro invocation
    rw [ofTokens, run_eq_ok_iff]
    exact ⟨spelled_of_read, fun ⟨parts, spelled⟩ => spelled.read refuses stops⟩
  · intro invocation parts spelled
    exact ⟨spelled.flatMap_written, spelled.written_ne_nil, spelled.flatMap_printed,
      spelled.countP_isComma, fun _ _ _ _ cut => spelled.label_iff stops cut⟩
  · intro bound room
    have seen := tokens.length_visible_le
    exact readItems_eq_of_room (Nat.lt_of_le_of_lt seen room) (Nat.lt_succ_of_le seen)
  · intro bound
    exact Row.read_eq_readItems _ bound _ []

end Invocation

end MacroExpansion
