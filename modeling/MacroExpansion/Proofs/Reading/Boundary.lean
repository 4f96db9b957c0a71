import MacroExpansion.Invocation
import MacroExpansion.Proofs.Reading.Progress

/-!
# Where an expression begins and ends

An expression ends where nothing that belongs to it can follow: at the end of the tokens, at a
comma, at an arrow, and at a colon that is no part of a path. `Tokens.Ends` says so of what is
ahead, and the readers of what may go on behind an expression stay at such a point.

No expression begins with an equals sign, and so none begins with an arrow. One that begins with a
name in front of a colon ends at the colon, so it is not the whole of what a separator follows.
-/

namespace MacroExpansion

namespace Tokens

/-! ### Looking past the first tokens -/

/-- Behind a token that is seen, more tokens change nothing in front. -/
theorem expose_append_of_cons {front rest : Tokens} {token : Token}
    (next : front.expose = token :: rest) (back : Tokens) :
    (front ++ back).expose = token :: (rest ++ back) := by
  induction front with
  | nil => cases next
  | cons first front ih =>
      rw [expose] at next
      rw [List.cons_append, expose]
      cases opened : first.opened with
      | nil =>
          rw [opened] at next
          exact ih next
      | cons seen more =>
          rw [opened] at next
          simp only [List.cons_append, List.cons.injEq] at next ⊢
          obtain ⟨rfl, rfl⟩ := next
          simp

/-- Where nothing is seen, what is behind comes first. -/
theorem expose_append_of_nil {front : Tokens} (none : front.expose = []) (back : Tokens) :
    (front ++ back).expose = back.expose := by
  induction front with
  | nil => rfl
  | cons first front ih =>
      rw [expose] at none
      rw [List.cons_append, expose]
      cases opened : first.opened with
      | nil =>
          rw [opened] at none
          exact ih none
      | cons seen more => simp [opened] at none

/-- What is seen in an invisible group comes first. -/
theorem expose_invisible_of_cons {inner more : Tokens} {token : Token}
    (next : inner.expose = token :: more) (span : Span) (rest : Tokens) :
    expose (.group .invisible inner span :: rest) = token :: (more ++ rest) := by
  rw [expose, Token.opened, next]
  rfl

/-- An operator begins with its first character. -/
theorem front_of_sees {text : String} {c : Char} {cs : List Char} {tokens : Tokens}
    (chars : text.toList = c :: cs) (seen : tokens.sees text = true) :
    ∃ spacing span rest, tokens.expose = .punct c spacing span :: rest := by
  rw [sees, chars, seesChars] at seen
  split at seen
  · rename_i d spacing span rest front
    simp only [Bool.and_eq_true, beq_iff_eq] at seen
    exact ⟨spacing, span, rest, seen.1 ▸ front⟩
  · cases seen

theorem sees_of_front {text : String} {c : Char} {tokens rest : Tokens} {spacing : Spacing}
    {span : Span} (chars : text.toList = [c])
    (front : tokens.expose = .punct c spacing span :: rest) : tokens.sees text = true := by
  simp [sees, chars, seesChars, front]

/-- The other characters of an operator are behind the first. -/
theorem seesChars_behind {c d : Char} {cs : List Char} {tokens rest : Tokens} {spacing : Spacing}
    {span : Span} (front : tokens.expose = .punct c spacing span :: rest)
    (seen : seesChars (c :: d :: cs) tokens = true) : seesChars (d :: cs) rest = true := by
  rw [seesChars, front] at seen
  simp only [List.isEmpty_cons, Bool.false_or, Bool.and_eq_true] at seen
  exact seen.2.2

/-- Two lists that begin with the same token and go on alike begin with the same operators. -/
theorem sees_congr {tokens others : Tokens} (same : tokens.expose = others.expose)
    (text : String) : tokens.sees text = others.sees text := by
  unfold sees
  cases text.toList with
  | nil => rw [seesChars, seesChars]
  | cons c cs => rw [seesChars, seesChars, same]

/-- More tokens behind an operator do not hide it. -/
theorem seesChars_append {chars : List Char} {front : Tokens}
    (seen : seesChars chars front = true) (back : Tokens) :
    seesChars chars (front ++ back) = true := by
  induction chars generalizing front with
  | nil => rfl
  | cons c cs ih =>
      unfold seesChars at seen
      split at seen
      · rename_i d spacing span rest next
        unfold seesChars
        rw [expose_append_of_cons next]
        simp only [Bool.and_eq_true, Bool.or_eq_true] at seen ⊢
        exact ⟨seen.1, seen.2.imp id fun joint => ⟨joint.1, ih joint.2⟩⟩
      · cases seen

/-- A colon in front is single whatever is behind it, if it is single with more behind it. -/
theorem seesColon_of_append {front back : Tokens} (seen : front.expose ≠ [])
    (colon : (front ++ back).seesColon = true) : front.seesColon = true := by
  obtain ⟨token, rest, next⟩ := List.exists_cons_of_ne_nil seen
  obtain ⟨single, double⟩ := Bool.and_eq_true_iff.mp colon
  obtain ⟨spacing, span, more, found⟩ := front_of_sees (c := ':') rfl single
  rw [expose_append_of_cons next] at found
  cases found
  have first : front.sees ":" = true := by simp [sees, seesChars, next]
  have alone : front.sees "::" = false := by
    rw [Bool.eq_false_iff]
    intro twice
    have twice : (front ++ back).sees "::" = true := seesChars_append twice back
    simp [twice] at double
  simp [seesColon, first, alone]

/-- A colon begins the separator of a path if it is joint to another one. -/
theorem sees_separator_iff {tokens rest : Tokens} {spacing : Spacing} {place : Span}
    (colon : tokens.expose = .punct ':' spacing place :: rest) :
    tokens.sees "::" = true ↔
      spacing = .joint ∧ ∃ spacing' place' more,
        rest.visible = .punct ':' spacing' place' :: more := by
  have opened : tokens.sees "::" = true ↔ spacing = .joint ∧ rest.sees ":" = true := by
    simp [sees, seesChars, colon]
  rw [opened]
  refine and_congr_right fun _ => ?_
  constructor
  · intro second
    obtain ⟨spacing', place', more, front⟩ := front_of_sees (c := ':') rfl second
    exact ⟨spacing', place', _, visible_of_expose front⟩
  · rintro ⟨spacing', place', more, seen⟩
    obtain ⟨behind, front, -⟩ := expose_of_visible seen
    exact sees_of_front (c := ':') rfl front

/-! ### The end of an expression -/

/-- Nothing that belongs to an expression follows here. -/
def Ends (tokens : Tokens) : Prop :=
  tokens.expose = [] ∨ tokens.sees "," = true ∨ tokens.sees "=>" = true ∨
    tokens.seesColon = true

namespace Ends

variable {tokens : Tokens}

/-- No token follows, or punctuation of three kinds. -/
theorem front (ends : tokens.Ends) :
    tokens.expose = [] ∨ ∃ c spacing span rest, tokens.expose = .punct c spacing span :: rest ∧
      (c = ',' ∨ c = '=' ∨ c = ':') := by
  obtain none | comma | arrow | colon := ends
  · exact .inl none
  · obtain ⟨spacing, span, rest, front⟩ := front_of_sees (c := ',') rfl comma
    exact .inr ⟨_, _, _, _, front, .inl rfl⟩
  · obtain ⟨spacing, span, rest, front⟩ := front_of_sees (c := '=') rfl arrow
    exact .inr ⟨_, _, _, _, front, .inr (.inl rfl)⟩
  · obtain ⟨spacing, span, rest, front⟩ :=
      front_of_sees (c := ':') rfl (Bool.and_eq_true_iff.mp colon).1
    exact .inr ⟨_, _, _, _, front, .inr (.inr rfl)⟩

theorem word? (ends : tokens.Ends) : tokens.word? = none := by
  obtain none | ⟨c, spacing, span, rest, front, -⟩ := ends.front
  · simp [Tokens.word?, none]
  · simp [Tokens.word?, front]

theorem seesWord (ends : tokens.Ends) (word : String) : tokens.seesWord word = false := by
  simp [Tokens.seesWord, ends.word?]

theorem seesGroup (ends : tokens.Ends) (delimiter : Delimiter) :
    tokens.seesGroup delimiter = false := by
  obtain none | ⟨c, spacing, span, rest, front, -⟩ := ends.front
  · simp [Tokens.seesGroup, none]
  · simp [Tokens.seesGroup, front]

/-- Other operators do not follow. -/
theorem sees_eq_false (ends : tokens.Ends) (text : String) {c : Char} {cs : List Char}
    (chars : text.toList = c :: cs) (other : c ≠ ',' ∧ c ≠ '=' ∧ c ≠ ':') :
    tokens.sees text = false := by
  rw [Bool.eq_false_iff]
  intro seen
  obtain ⟨spacing, span, rest, found⟩ := front_of_sees chars seen
  obtain none | ⟨d, spacing, span, rest, front, kind⟩ := ends.front
  · rw [none] at found
    cases found
  · rw [front] at found
    cases found
    obtain rfl | rfl | rfl := kind <;> simp at other

/-- No path goes on. -/
theorem sees_separator (ends : tokens.Ends) : tokens.sees "::" = false := by
  obtain none | comma | arrow | colon := ends
  · simp [sees, seesChars, none]
  · obtain ⟨spacing, span, rest, front⟩ := front_of_sees (c := ',') rfl comma
    simp [sees, seesChars, front]
  · obtain ⟨spacing, span, rest, front⟩ := front_of_sees (c := '=') rfl arrow
    simp [sees, seesChars, front]
  · simpa [seesColon] using (Bool.and_eq_true_iff.mp colon).2

/-- An equals sign begins an arrow. -/
theorem sees_equals (ends : tokens.Ends) (seen : tokens.sees "=" = true) :
    tokens.sees "=>" = true := by
  obtain ⟨spacing, span, rest, equals⟩ := front_of_sees (c := '=') rfl seen
  obtain none | comma | arrow | colon := ends
  · rw [none] at equals
    cases equals
  · obtain ⟨spacing, span, rest, front⟩ := front_of_sees (c := ',') rfl comma
    rw [front] at equals
    cases equals
  · exact arrow
  · obtain ⟨spacing, span, rest, front⟩ :=
      front_of_sees (c := ':') rfl (Bool.and_eq_true_iff.mp colon).1
    rw [front] at equals
    cases equals

theorem seesAssign (ends : tokens.Ends) : Grammar.seesAssign tokens = false := by
  unfold Grammar.seesAssign
  cases equals : tokens.sees "=" with
  | false => rfl
  | true => simp [ends.sees_equals equals]

theorem sees_equal (ends : tokens.Ends) : tokens.sees "==" = false := by
  rw [Bool.eq_false_iff]
  intro equal
  obtain ⟨spacing, span, rest, front⟩ := front_of_sees (c := '=') rfl equal
  have arrow := ends.sees_equals (sees_of_front rfl front)
  -- Both operators have a second character, and it is not the same.
  have again : Tokens.sees "=" rest = true := seesChars_behind (d := '=') front equal
  have greater : Tokens.sees ">" rest = true := seesChars_behind (d := '>') front arrow
  obtain ⟨_, _, _, one⟩ := front_of_sees (c := '=') rfl again
  obtain ⟨_, _, _, two⟩ := front_of_sees (c := '>') rfl greater
  rw [one] at two
  cases two

theorem binaryOperator? (ends : tokens.Ends) : Grammar.binaryOperator? tokens = none := by
  refine List.find?_eq_none.mpr ?_
  intro entry among
  have kinds : ∀ entry ∈ Grammar.binaryOperators, entry.1 = "==" ∨
      ∃ c cs, entry.1.toList = c :: cs ∧ (c ≠ ',' ∧ c ≠ '=' ∧ c ≠ ':') := by
    simp [Grammar.binaryOperators]
  obtain equal | ⟨c, cs, chars, other⟩ := kinds entry among
  · rw [equal, ends.sees_equal]
    simp
  · rw [ends.sees_eq_false entry.1 chars other]
    simp

end Ends

end Tokens

/-- A label is a name in front of a single colon. -/
theorem Argument.seesLabel_iff {tokens : Tokens} :
    Argument.seesLabel tokens = true ↔ ∃ name span rest,
      tokens.expose = .ident name span :: rest ∧ Identifier.isName name = true ∧
        Tokens.seesColon rest = true := by
  constructor
  · intro label
    simp only [seesLabel, Bool.and_eq_true, Bool.not_eq_true', Tokens.seesName, Tokens.word?]
      at label
    obtain ⟨⟨named, single⟩, double⟩ := label
    split at named
    · rename_i name span rest front
      have second : tokens.second = rest := by simp [Tokens.second, front]
      rw [second] at single double
      exact ⟨name, span, rest, front, named, by simp [Tokens.seesColon, single, double]⟩
    · cases named
  · rintro ⟨name, span, rest, front, free, colon⟩
    have second : tokens.second = rest := by simp [Tokens.second, front]
    simpa [seesLabel, Tokens.seesName, Tokens.word?, front, second, free, Tokens.seesColon]
      using colon

namespace Grammar

open TokenReader

variable (g : Grammar)

/-! ### Readers that stay at the end of an expression -/

section Ends

variable {input : Input} (ends : input.rest.Ends)

include ends

theorem pathRest_of_ends (inType : Bool) : pathRest g inType input = .ok ([], input) := by
  unfold pathRest
  rw [bind_of_ok (ahead_eq input)]
  cases input.rest.size with
  | zero => rfl
  | succ bound =>
      rw [pathRest.go, bind_of_ok (ahead_eq input)]
      simp only [pathGoesOn, ends.sees_separator]
      rfl

theorem named_of_ends (structs : Bool) (path : Path) :
    named g structs path input = .ok (.path path, input) := by
  unfold named
  rw [bind_of_ok (ahead_eq input)]
  simp only [ends.sees_eq_false "!" rfl (by decide), ends.seesGroup, Bool.and_false,
    Bool.false_and, Bool.false_eq_true, if_false]
  rfl

theorem follow_of_ends (base : Expr) : follow g base input = .ok (none, input) := by
  unfold follow
  rw [bind_of_ok (ahead_eq input)]
  simp only [ends.seesGroup, Tokens.seesDot, ends.sees_eq_false "." rfl (by decide),
    ends.sees_eq_false "?" rfl (by decide), Bool.false_and, Bool.false_eq_true, if_false]
  rfl

theorem trail_of_ends (base : Expr) : trail g base input = .ok (base, input) := by
  unfold trail
  rw [bind_of_ok (ahead_eq input), trail.go, bind_of_ok (follow_of_ends g ends base)]
  rfl

theorem extend_of_ends (structs : Bool) (base : Precedence) (left : Expr) :
    extend g structs base left input = .ok (none, input) := by
  unfold extend
  rw [bind_of_ok (ahead_eq input)]
  simp only [ends.binaryOperator?, ends.seesAssign, ends.seesWord,
    ends.sees_eq_false ".." rfl (by decide), Bool.and_false, Bool.false_eq_true,
    if_false]
  split <;> rfl

theorem climb_of_ends (structs : Bool) (base : Precedence) (left : Expr) :
    climb g structs base left input = .ok (left, input) := by
  unfold climb
  rw [bind_of_ok (ahead_eq input), climb.go, bind_of_ok (extend_of_ends g ends structs base left)]
  rfl

end Ends

/-! ### The parts of an expression without operators -/

/-- An atom is read, and then what follows it directly. -/
theorem attributedAtom_eq_ok {structs : Bool} {start attributes : Tokens} {input after : Input}
    {value : Expr} (read : attributedAtom g structs start attributes input = .ok (value, after)) :
    ∃ atom between expr, atomRule g structs input = .ok (atom, between) ∧
      trail g atom between = .ok (expr, after) := by
  unfold attributedAtom at read
  obtain ⟨atom, between, one, read⟩ := bind_eq_ok_iff.mp read
  obtain ⟨expr, behind, two, read⟩ := bind_eq_ok_iff.mp read
  have stays : after = behind := by
    split at read
    · obtain ⟨tokens, there, look, read⟩ := bind_eq_ok_iff.mp read
      cases look
      exact (pure_eq_ok_iff.mp read).2.symm
    · split at read
      · exact (pure_eq_ok_iff.mp read).2.symm
      · exact absurd read Fails.fails
    · exact (pure_eq_ok_iff.mp read).2.symm
  rw [stays]
  exact ⟨atom, between, expr, one, two⟩

/-- An invisible group holds an expression. Where it ends an expression, nothing goes on behind
it. -/
theorem hiddenExpr_eq_ok [MovesForward g] {structs : Bool} {input after : Input} {value : Expr}
    (read : hiddenExpr g structs input = .ok (value, after)) :
    ∃ (inner : Tokens) (span : Span) (rest : Tokens) (found : Expr) (done between : Input),
      input.rest = .group .invisible inner span :: rest ∧
      g.expr true ⟨inner, .invisible, span.last, input.leftover⟩ = .ok (found, done) ∧
      between = { input with
        rest := rest
        leftover := done.leftover <|> done.rest.leftover? .invisible } ∧
      between.Leads after ∧ (rest.Ends → after = between) := by
  unfold hiddenExpr at read
  obtain ⟨⟨found, span⟩, between, one, read⟩ := bind_eq_ok_iff.mp read
  obtain ⟨inner, place, rest, front, one⟩ := invisible_eq_ok one
  obtain ⟨done, content, same⟩ := inside_eq_ok one
  obtain ⟨found', done', content, returned⟩ := bind_eq_ok_iff.mp content
  cases returned
  refine ⟨inner, span, rest, found, done, between, front, content, same, ?_⟩
  dsimp only at read
  split at read
  · rename_i path
    obtain ⟨more, there, two, read⟩ := bind_eq_ok_iff.mp read
    obtain ⟨whole, behind, three, read⟩ := bind_eq_ok_iff.mp read
    have stays : after = behind := by
      split at read
      · split at read
        · exact (pure_eq_ok_iff.mp read).2.symm
        · exact (pure_eq_ok_iff.mp read).2.symm
      · exact (pure_eq_ok_iff.mp read).2.symm
    rw [stays]
    refine ⟨(Forward.leads two).trans (Forward.leads three), ?_⟩
    intro ends
    have ends : between.rest.Ends := by rw [same]; exact ends
    rw [pathRest_of_ends g ends] at two
    cases two
    rw [named_of_ends g ends] at three
    cases three
    rfl
  · obtain ⟨-, rfl⟩ := pure_eq_ok_iff.mp read
    exact ⟨.refl _, fun _ => rfl⟩

theorem exprAttributes_of_none {input : Input}
    (none : input.rest.seesInvisible = true ∨ input.rest.sees "#" = false) :
    exprAttributes g input = .ok ([], input) := by
  unfold exprAttributes repeatWhile
  rw [bind_of_ok (ahead_eq input), repeatWhile.go, bind_of_ok (ahead_eq input)]
  have stops : (!input.rest.seesInvisible && input.rest.sees "#") = false := by
    obtain hidden | missing := none
    · simp [hidden]
    · simp [missing]
  simp only [stops]
  rfl

/-- Without an attribute and a sign in front of it, an expression without binary operators is an
atom with what follows it. -/
theorem unaryRule_of_atom {structs : Bool} {input : Input}
    (bare : input.rest.seesInvisible = true ∨
      ∀ text ∈ ["#", "&", "*", "!", "-"], input.rest.sees text = false) :
    unaryRule g structs input = attributedAtom g structs input.rest [] input := by
  have none : input.rest.seesInvisible = true ∨ input.rest.sees "#" = false :=
    bare.imp id fun missing => missing "#" (by simp)
  unfold unaryRule
  rw [bind_of_ok (ahead_eq input), bind_of_ok (exprAttributes_of_none g none),
    bind_of_ok (ahead_eq input)]
  obtain hidden | missing := bare
  · simp only [hidden, if_true]
  · simp only [List.mem_cons, List.not_mem_nil, or_false, forall_eq_or_imp, forall_eq] at missing
    simp [missing]

/-- Where an equals sign is seen no atom begins. -/
theorem atomRule_of_equals {structs : Bool} {input : Input} {spacing : Spacing} {span : Span}
    {rest : Tokens} (shown : input.rest.seesInvisible = false)
    (front : input.rest.expose = .punct '=' spacing span :: rest) :
    atomRule g structs input = expected "an expression" input := by
  have word (text : String) : input.rest.seesWord text = false := by
    simp [Tokens.seesWord, Tokens.word?, front]
  have group (delimiter : Delimiter) : input.rest.seesGroup delimiter = false := by
    simp [Tokens.seesGroup, front]
  have untouched : untouched? g input = .ok (none, input) := by
    unfold untouched?
    rw [bind_of_ok (ahead_eq input)]
    simp only [word, Bool.false_and, Bool.false_eq_true, if_false]
    rfl
  have jump : jump? g structs input = .ok (none, input) := by
    unfold jump?
    rw [bind_of_ok (ahead_eq input)]
    simp only [word, Bool.false_eq_true, if_false]
    rfl
  have control : control? g input = .ok (none, input) := by
    unfold control?
    rw [bind_of_ok (ahead_eq input)]
    simp only [word, group, Bool.false_and, Bool.false_eq_true, if_false]
    rfl
  have operator (text : String) {c : Char} {cs : List Char} (chars : text.toList = c :: cs)
      (other : c ≠ '=') : input.rest.sees text = false := by
    simp [Tokens.sees, chars, Tokens.seesChars, front, other.symm]
  have literal : input.rest.seesLiteral = false := by simp [Tokens.seesLiteral, front]
  have lifetime : input.rest.seesLifetime = false := by simp [Tokens.seesLifetime, front]
  have name : input.rest.seesName = false := by simp [Tokens.seesName, Tokens.word?, front]
  have closure : seesClosure input.rest = false := by
    simp [seesClosure, seesBinder, word, operator "|" rfl (by decide)]
  have path : seesExprPath input.rest = false := by
    simp [seesExprPath, seesPath, Tokens.seesWords, word, name, operator "::" rfl (by decide),
      operator "<" rfl (by decide)]
  unfold atomRule
  rw [bind_of_ok (ahead_eq input)]
  simp only [shown, literal, seesAsyncBlock, word, closure, Bool.false_and, Bool.false_eq_true,
    if_false]
  rw [bind_of_ok untouched]
  simp only [path, group, Bool.false_eq_true, if_false]
  rw [bind_of_ok jump]
  dsimp only
  rw [bind_of_ok control]
  simp only [operator ".." rfl (by decide), lifetime, Bool.false_eq_true, if_false]

/-- Nothing is read inside an invisible group in which nothing is seen. -/
theorem expose_ne_nil_of_read {structs : Bool} [TakesToken g] {input after : Input} {value : Expr}
    (read : g.expr structs input = .ok (value, after)) : input.rest.expose ≠ [] := by
  intro none
  have taken := Takes.takes read
  rw [Tokens.expose_eq_nil_iff.mp none] at taken
  exact absurd taken (Nat.not_lt_zero _)

/-! ### No expression begins with an equals sign -/

/-- No reader of expressions takes an equals sign. -/
def RefusesEquals (g : Grammar) : Prop :=
  ∀ structs input after value, input.rest.sees "=" = true →
    g.expr structs input ≠ .ok (value, after) ∧ g.unary structs input ≠ .ok (value, after)

/-- One more level of nesting still refuses it: behind an invisible group the group's content
begins with it. -/
theorem RefusesEquals.deepen {g : Grammar} [MovesForward g] [TakesToken g]
    (refuses : RefusesEquals g) : RefusesEquals (deepen g) := by
  intro structs input after value equals
  refine ⟨?_, ?_⟩
  · intro read
    obtain ⟨first, between, one, -⟩ := bind_eq_ok_iff.mp read
    exact (refuses structs input between first equals).2 one
  · intro read
    obtain ⟨spacing, span, rest, front⟩ := Tokens.front_of_sees (c := '=') rfl equals
    have bare : ∀ text ∈ ["#", "&", "*", "!", "-"], input.rest.sees text = false := by
      simp [Tokens.sees, Tokens.seesChars, front]
    have read : unaryRule g structs input = .ok (value, after) := read
    rw [unaryRule_of_atom g (.inr bare)] at read
    obtain ⟨atom, between, expr, one, -⟩ := attributedAtom_eq_ok g read
    cases shown : input.rest.seesInvisible with
    | false =>
        rw [atomRule_of_equals g shown front] at one
        exact absurd one Fails.fails
    | true =>
        unfold atomRule at one
        rw [bind_of_ok (ahead_eq input)] at one
        simp only [shown, if_true] at one
        obtain ⟨inner, place, behind, found, done, -, group, content, -⟩ := hiddenExpr_eq_ok g one
        obtain ⟨token, more, next⟩ := List.exists_cons_of_ne_nil (expose_ne_nil_of_read g content)
        rw [group, Tokens.expose_invisible_of_cons next] at front
        cases front
        refine (refuses true _ done found ?_).1 content
        simp [Tokens.sees, Tokens.seesChars, next]

theorem refusesEquals_ofDepth (depth : Nat) : RefusesEquals (ofDepth depth) := by
  induction depth with
  | zero => exact fun _ _ _ _ _ => ⟨nofun, nofun⟩
  | succ depth ih => exact ih.deepen

/-! ### Names -/

section Name

variable {input : Input} {name : String} {span : Span} {rest : Tokens}
  (front : input.rest.expose = .ident name span :: rest) (free : Identifier.isName name = true)

include front

theorem sees_of_ident (text : String) {c : Char} {cs : List Char}
    (chars : text.toList = c :: cs) : input.rest.sees text = false := by
  simp [Tokens.sees, chars, Tokens.seesChars, front]

include free

/-- A name is no reserved word. -/
theorem seesWord_of_name (word : String) (reserved : word ∈ Identifier.reserved) :
    input.rest.seesWord word = false := by
  have other : name ≠ word := by
    rintro rfl
    simp [Identifier.isName, reserved] at free
  simp [Tokens.seesWord, Tokens.word?, front, other]

theorem ident_of_name : ident input = .ok (⟨name, span⟩, { input with rest := rest }) := by
  simp [ident, front, free]

theorem anyPath_of_name (ends : rest.Ends) :
    anyPath g false input =
      .ok (⟨[], [⟨[], ⟨name, span⟩, []⟩]⟩, { input with rest := rest }) := by
  have word := seesWord_of_name front free
  have place : input.rest.seesWords placeWords = false := by
    simp [Tokens.seesWords, placeWords, word "super" (by decide), word "self" (by decide),
      word "crate" (by decide), word "try" (by decide)]
  have separator : operator? "::" input = .ok ([], input) := by
    unfold operator? ifAhead
    rw [bind_of_ok (ahead_eq input)]
    simp only [sees_of_ident front "::" rfl]
    rfl
  have segment : pathSegment g false [] input =
      .ok (⟨[], ⟨name, span⟩, []⟩, { input with rest := rest }) := by
    unfold pathSegment
    rw [bind_of_ok (ahead_eq input)]
    simp only [place, word "Self" (by decide), Bool.false_eq_true, if_false]
    rw [bind_of_ok (ident_of_name front free), bind_of_ok (ahead_eq _)]
    simp only [ends.sees_separator, Bool.false_and, Bool.or_false, Bool.false_eq_true, if_false]
    rfl
  have done : ({ input with rest := rest } : Input).rest.Ends := ends
  unfold anyPath
  rw [bind_of_ok (ahead_eq input)]
  simp only [sees_of_ident front "<" rfl, Bool.false_eq_true, if_false]
  unfold simplePath
  rw [bind_of_ok separator, bind_of_ok segment, bind_of_ok (pathRest_of_ends g done false)]
  rfl

/-- A name that ends an expression is a path. -/
theorem atomRule_of_name (ends : rest.Ends) (shown : input.rest.seesInvisible = false)
    (structs : Bool) :
    atomRule g structs input =
      .ok (.path ⟨[], [⟨[], ⟨name, span⟩, []⟩]⟩, { input with rest := rest }) := by
  have word := seesWord_of_name front free
  have sees := sees_of_ident front
  have second : input.rest.second = rest := by simp [Tokens.second, front]
  have literal : input.rest.seesLiteral = false := by
    have truth := word "true" (by decide)
    have untruth := word "false" (by decide)
    simp only [Tokens.seesWord, Tokens.word?, front] at truth untruth
    simp_all [Tokens.seesLiteral]
  have closure : seesClosure input.rest = false := by
    simp [seesClosure, seesBinder, sees "|" rfl, word "move" (by decide), word "for" (by decide),
      word "const" (by decide), word "static" (by decide), word "async" (by decide)]
  have path : seesExprPath input.rest = true := by
    simp [seesExprPath, seesPath, Tokens.seesName, Tokens.word?, front, free]
  have untouched : untouched? g input = .ok (none, input) := by
    unfold untouched?
    rw [bind_of_ok (ahead_eq input)]
    simp only [word "become" (by decide), second, ends.sees_eq_false "#" rfl (by decide),
      Bool.and_false, Bool.false_eq_true, if_false]
    rfl
  unfold atomRule
  rw [bind_of_ok (ahead_eq input)]
  simp only [shown, literal, seesAsyncBlock, word "async" (by decide), closure, Bool.false_and,
    Bool.false_eq_true, if_false]
  rw [bind_of_ok untouched]
  simp only [path, if_true]
  rw [bind_of_ok (anyPath_of_name g front free ends)]
  have done : ({ input with rest := rest } : Input).rest.Ends := ends
  exact named_of_ends g done structs _

end Name

/-! ### An expression behind which a label's colon stands -/

/-- Readers of expressions that begin with a label stop at its colon, or leave the colon behind in a
group. -/
def StopsAtColon (g : Grammar) : Prop :=
  ∀ structs input after value, Argument.seesLabel input.rest = true →
    g.expr structs input = .ok (value, after) ∨ g.unary structs input = .ok (value, after) →
    after.leftover = none → after.rest.seesColon = true

/-- An atom that begins with a label stops at its colon, whether the name is seen at once or through
an invisible group. -/
theorem StopsAtColon.atomRule {g : Grammar} [MovesForward g] [TakesToken g]
    (stops : StopsAtColon g) {structs : Bool} {input after : Input} {value : Expr}
    (label : Argument.seesLabel input.rest = true)
    (read : atomRule g structs input = .ok (value, after)) (clean : after.leftover = none) :
    after.rest.seesColon = true := by
  obtain ⟨name, span, behind, front, free, colon⟩ := Argument.seesLabel_iff.mp label
  cases shown : input.rest.seesInvisible with
  | false =>
      rw [atomRule_of_name g front free (.inr (.inr (.inr colon))) shown structs] at read
      cases read
      exact colon
  | true =>
      unfold Grammar.atomRule at read
      rw [bind_of_ok (ahead_eq input)] at read
      simp only [shown, if_true] at read
      obtain ⟨inner, place, rest, found, done, between, group, content, same, leads, stays⟩ :=
        hiddenExpr_eq_ok g read
      have left := leads.clean clean
      rw [same] at left
      obtain ⟨token, more, next⟩ := List.exists_cons_of_ne_nil (expose_ne_nil_of_read g content)
      rw [group, Tokens.expose_invisible_of_cons next] at front
      cases front
      by_cases ended : Tokens.expose more = []
      · -- The group holds the name only, and the colon is behind it.
        have colon : rest.seesColon = true := by
          have same := Tokens.expose_append_of_nil ended rest
          simpa [Tokens.seesColon, Tokens.sees_congr same] using colon
        rw [stays (.inr (.inr (.inr colon))), same]
        exact colon
      · -- The colon is in the group, where it is left over.
        have inLabel : Argument.seesLabel inner = true :=
          Argument.seesLabel_iff.mpr ⟨name, span, more, next, free,
            Tokens.seesColon_of_append ended colon⟩
        obtain ⟨doneClean, nothing⟩ : done.leftover = none ∧
            done.rest.leftover? .invisible = none := by
          simpa using left
        have colon := stops true _ done found inLabel (.inl content) doneClean
        obtain ⟨spacing, place, more, seen⟩ :=
          Tokens.front_of_sees (c := ':') rfl (Bool.and_eq_true_iff.mp colon).1
        rw [Tokens.leftover?_eq_none_iff, ← Tokens.expose_eq_nil_iff, seen] at nothing
        cases nothing

theorem StopsAtColon.deepen {g : Grammar} [MovesForward g] [TakesToken g]
    (stops : StopsAtColon g) : StopsAtColon (deepen g) := by
  intro structs input after value label read clean
  obtain read | read := read
  · obtain ⟨first, between, one, two⟩ := bind_eq_ok_iff.mp read
    have colon :=
      stops structs input between first label (.inr one) ((Forward.leads two).clean clean)
    rw [climb_of_ends g (.inr (.inr (.inr colon)))] at two
    cases two
    exact colon
  · obtain ⟨name, span, behind, front, -⟩ := Argument.seesLabel_iff.mp label
    have read : unaryRule g structs input = .ok (value, after) := read
    have bare : ∀ text ∈ ["#", "&", "*", "!", "-"], input.rest.sees text = false := by
      simp [Tokens.sees, Tokens.seesChars, front]
    rw [unaryRule_of_atom g (.inr bare)] at read
    obtain ⟨atom, between, expr, one, two⟩ := attributedAtom_eq_ok g read
    have colon := stops.atomRule label one ((Forward.leads two).clean clean)
    rw [trail_of_ends g (.inr (.inr (.inr colon)))] at two
    cases two
    exact colon

theorem stopsAtColon_ofDepth (depth : Nat) : StopsAtColon (ofDepth depth) := by
  induction depth with
  | zero => exact fun _ _ _ _ _ read => by obtain read | read := read <;> cases read
  | succ depth ih => exact ih.deepen

end Grammar

end MacroExpansion
