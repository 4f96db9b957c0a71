import MacroExpansion.Grammar.Rules

/-!
# Readers move forward

A reader gives up nothing and makes up nothing: what it leaves is the end of what it was given, seen
with all invisible groups opened. It stays in its group, and a token that was left over in a group
before is not forgotten. `Input.Leads` says so of two points of the reading, and `Forward` of a
reader. The class is closed under the ways readers are put together, so that a rule of the grammar
has it because its parts do.

`Takes` is the same with at least one token taken.
-/

namespace MacroExpansion

mutual

/-- The tokens of a token with all invisible groups opened. -/
def Token.visible : Token → Tokens
  | .group .invisible inner _ => Tokens.visible inner
  | token => [token]

/-- The tokens that are seen with all invisible groups opened. -/
def Tokens.visible : Tokens → Tokens
  | [] => []
  | token :: rest => token.visible ++ Tokens.visible rest

end

namespace Tokens

@[simp] theorem visible_nil : visible [] = [] := by rw [visible]

@[simp] theorem visible_cons (token : Token) (rest : Tokens) :
    visible (token :: rest) = token.visible ++ visible rest := by rw [visible]

@[simp] theorem visible_append (front back : Tokens) :
    visible (front ++ back) = visible front ++ visible back := by
  induction front with
  | nil => simp
  | cons token front ih => simp [ih, List.append_assoc]

@[simp] theorem visible_ident (text : String) (span : Span) :
    (Token.ident text span).visible = [.ident text span] := by simp [Token.visible]

@[simp] theorem visible_punct (c : Char) (spacing : Spacing) (span : Span) :
    (Token.punct c spacing span).visible = [.punct c spacing span] := by simp [Token.visible]

@[simp] theorem visible_literal (text : String) (span : Span) :
    (Token.literal text span).visible = [.literal text span] := by simp [Token.visible]

@[simp] theorem visible_invisible (inner : Tokens) (span : Span) :
    (Token.group .invisible inner span).visible = visible inner := by simp [Token.visible]

end Tokens

mutual

theorem Token.length_visible_le (token : Token) : token.visible.length ≤ token.size := by
  match token with
  | .ident text span => simp [Token.size]
  | .punct c spacing span => simp [Token.size]
  | .literal text span => simp [Token.size]
  | .group .parenthesis inner span => simp [Token.size, Token.visible]
  | .group .brace inner span => simp [Token.size, Token.visible]
  | .group .bracket inner span => simp [Token.size, Token.visible]
  | .group .invisible inner span =>
      rw [Tokens.visible_invisible, Token.size]
      exact Nat.le_succ_of_le (Tokens.length_visible_le inner)

/-- Not more is seen than there is. -/
theorem Tokens.length_visible_le (tokens : Tokens) : tokens.visible.length ≤ tokens.size := by
  match tokens with
  | [] => simp
  | token :: rest =>
      rw [Tokens.visible_cons, List.length_append, Tokens.size]
      exact Nat.add_le_add token.length_visible_le (Tokens.length_visible_le rest)

end

mutual

/-- Opening a token changes nothing of what is seen, and what it starts with is seen. -/
theorem Token.opened_spec (token : Token) :
    Tokens.visible token.opened = token.visible ∧
      ∀ first rest, token.opened = first :: rest → first.visible = [first] := by
  match token with
  | .ident text span => simp [Token.opened]
  | .punct c spacing span => simp [Token.opened]
  | .literal text span => simp [Token.opened]
  | .group .parenthesis inner span => simp [Token.opened, Token.visible]
  | .group .brace inner span => simp [Token.opened, Token.visible]
  | .group .bracket inner span => simp [Token.opened, Token.visible]
  | .group .invisible inner span =>
      obtain ⟨same, front⟩ := Tokens.expose_spec inner
      simpa [Token.opened, same] using front

/-- Opening the groups at the front changes nothing of what is seen, and the front is seen. -/
theorem Tokens.expose_spec (tokens : Tokens) :
    Tokens.visible tokens.expose = tokens.visible ∧
      ∀ first rest, tokens.expose = first :: rest → first.visible = [first] := by
  match tokens with
  | [] => simp
  | token :: rest =>
      obtain ⟨same, front⟩ := Token.opened_spec token
      obtain ⟨sameRest, frontRest⟩ := Tokens.expose_spec rest
      rw [Tokens.expose]
      cases opened : token.opened with
      | nil =>
          rw [opened] at same
          refine ⟨?_, frontRest⟩
          simpa [← same] using sameRest
      | cons first more =>
          refine ⟨?_, ?_⟩
          · rw [opened] at same
            change Tokens.visible ((first :: more) ++ rest) = _
            rw [Tokens.visible_append, same, Tokens.visible_cons]
          · intro first' rest' split
            obtain ⟨rfl, -⟩ := List.cons.inj split
            exact front first more opened

end

namespace Tokens

@[simp] theorem visible_expose (tokens : Tokens) : tokens.expose.visible = tokens.visible :=
  tokens.expose_spec.1

/-- The next token is the first one that is seen. -/
theorem visible_of_expose {tokens rest : Tokens} {token : Token}
    (next : tokens.expose = token :: rest) : tokens.visible = token :: rest.visible := by
  have front := tokens.expose_spec.2 token rest next
  rw [← visible_expose, next, visible_cons, front]
  rfl

/-- The first token that is seen is the next. -/
theorem expose_of_visible {tokens rest : Tokens} {token : Token}
    (seen : tokens.visible = token :: rest) :
    ∃ behind, tokens.expose = token :: behind ∧ visible behind = rest := by
  cases next : tokens.expose with
  | nil =>
      rw [← visible_expose, next] at seen
      cases seen
  | cons first behind =>
      rw [visible_of_expose next] at seen
      obtain ⟨rfl, rfl⟩ := List.cons.inj seen
      exact ⟨behind, rfl, rfl⟩

theorem expose_eq_nil_iff {tokens : Tokens} : tokens.expose = [] ↔ tokens.visible = [] := by
  constructor
  · intro none
    rw [← visible_expose, none, visible_nil]
  · intro none
    cases next : tokens.expose with
    | nil => rfl
    | cons token rest => exact nomatch none.symm.trans (visible_of_expose next)

end Tokens

mutual

theorem Token.leftover?_eq_none_iff (within : Delimiter) (token : Token) :
    token.leftover? within = none ↔ token.visible = [] := by
  match token with
  | .ident text span => simp [Token.leftover?]
  | .punct c spacing span => simp [Token.leftover?]
  | .literal text span => simp [Token.leftover?]
  | .group .parenthesis inner span => simp [Token.leftover?, Token.visible]
  | .group .brace inner span => simp [Token.leftover?, Token.visible]
  | .group .bracket inner span => simp [Token.leftover?, Token.visible]
  | .group .invisible inner span =>
      simpa [Token.leftover?] using Tokens.leftover?_eq_none_iff .invisible inner

/-- Nothing is left over if nothing is seen. -/
theorem Tokens.leftover?_eq_none_iff (within : Delimiter) (tokens : Tokens) :
    tokens.leftover? within = none ↔ tokens.visible = [] := by
  match tokens with
  | [] => simp [Tokens.leftover?]
  | token :: rest =>
      have first := Token.leftover?_eq_none_iff within token
      have others := Tokens.leftover?_eq_none_iff within rest
      rw [Tokens.leftover?, Tokens.visible_cons, List.append_eq_nil_iff, ← first, ← others]
      cases token.leftover? within <;> simp

end

namespace Input

/-- A reader can get from one point to the other. -/
structure Leads (before after : Input) : Prop where
  rest : after.rest.visible <:+ before.rest.visible
  group : after.group = before.group
  close : after.close = before.close
  leftover : ∀ error, before.leftover = some error → after.leftover = some error

namespace Leads

theorem refl (input : Input) : input.Leads input :=
  ⟨List.suffix_rfl, rfl, rfl, fun _ some => some⟩

theorem trans {first second third : Input} (one : first.Leads second) (two : second.Leads third) :
    first.Leads third where
  rest := two.rest.trans one.rest
  group := two.group.trans one.group
  close := two.close.trans one.close
  leftover error some := two.leftover error (one.leftover error some)

/-- Where nothing is left over, nothing was left over before. -/
theorem clean {before after : Input} (leads : before.Leads after) (clean : after.leftover = none) :
    before.leftover = none := by
  cases left : before.leftover with
  | none => rfl
  | some error => exact nomatch clean.symm.trans (leads.leftover error left)

/-- Only the tokens in front are gone. -/
theorem of_suffix {input : Input} {rest : Tokens} (suffix : rest.visible <:+ input.rest.visible) :
    input.Leads { input with rest := rest } :=
  ⟨suffix, rfl, rfl, fun _ some => some⟩

/-- The next token is gone. -/
theorem of_expose {input : Input} {token : Token} {rest : Tokens}
    (next : input.rest.expose = token :: rest) : input.Leads { input with rest := rest } := by
  refine of_suffix ?_
  rw [Tokens.visible_of_expose next]
  exact List.suffix_cons _ _

end Leads

end Input

namespace TokenReader

variable {α β : Type}

/-- What one reader finds is handed to the next. -/
theorem bind_of_ok {first : TokenReader α} {next : α → TokenReader β} {input between : Input}
    {found : α} (one : first input = .ok (found, between)) :
    (first >>= next) input = next found between := by
  change (first input >>= fun found => next found.1 found.2) = _
  rw [one]
  rfl

theorem ahead_eq (input : Input) : ahead input = .ok (input.rest, input) := rfl

/-- The result of one reader after the other. -/
theorem bind_eq_ok_iff {first : TokenReader α} {next : α → TokenReader β} {input after : Input}
    {value : β} :
    (first >>= next) input = .ok (value, after) ↔
      ∃ found between, first input = .ok (found, between) ∧
        next found between = .ok (value, after) := by
  change (first input >>= fun found => next found.1 found.2) = _ ↔ _
  cases first input with
  | error error => exact ⟨nofun, fun ⟨_, _, read, _⟩ => nomatch read⟩
  | ok found =>
      constructor
      · intro read
        exact ⟨found.1, found.2, rfl, read⟩
      · rintro ⟨_, _, same, read⟩
        cases same
        exact read

theorem pure_eq_ok_iff {found value : α} {input after : Input} :
    (pure found : TokenReader α) input = .ok (value, after) ↔ found = value ∧ input = after := by
  change Except.ok (found, input) = _ ↔ _
  simp

/-- The reader only moves forward. -/
class Forward (reader : TokenReader α) : Prop where
  leads {input after : Input} {value : α} (read : reader input = .ok (value, after)) :
    input.Leads after

/-- The reader moves forward and takes a token. -/
class Takes (reader : TokenReader α) : Prop where
  takes {input after : Input} {value : α} (read : reader input = .ok (value, after)) :
    after.rest.visible.length < input.rest.visible.length

/-- A reader that never succeeds. -/
class Fails (reader : TokenReader α) : Prop where
  fails {input after : Input} {value : α} : reader input ≠ .ok (value, after)

/-! ### Ways to put readers together -/

instance (value : α) : Forward (pure value : TokenReader α) where
  leads read := by
    obtain ⟨-, rfl⟩ := pure_eq_ok_iff.mp read
    exact .refl _

/-- A reader and what follows it, if it is known of what follows. -/
theorem Forward.bind {first : TokenReader α} {next : α → TokenReader β} [Forward first]
    (forward : ∀ value, Forward (next value)) : Forward (first >>= next) where
  leads read := by
    obtain ⟨value, between, one, two⟩ := bind_eq_ok_iff.mp read
    exact (Forward.leads one).trans ((forward value).leads two)

instance (first : TokenReader α) (next : α → TokenReader β) [Forward first]
    [forward : ∀ value, Forward (next value)] : Forward (first >>= next) := .bind forward

/-- A reader or another one, if it is known of the other. -/
theorem Forward.ite {condition : Prop} [Decidable condition] {yes no : TokenReader α}
    [Forward yes] (forward : Forward no) : Forward (if condition then yes else no) := by
  split <;> infer_instance

instance (condition : Prop) [Decidable condition] (yes no : TokenReader α) [Forward yes]
    [forward : Forward no] : Forward (if condition then yes else no) := .ite forward

instance (reader : TokenReader α) [Fails reader] : Forward reader where
  leads read := absurd read Fails.fails

instance (reader : TokenReader α) [Fails reader] : Takes reader where
  takes read := absurd read Fails.fails

/-- It is enough that the first reader takes a token. -/
theorem Takes.followed {first : TokenReader α} {next : α → TokenReader β} [Takes first]
    (forward : ∀ value, Forward (next value)) : Takes (first >>= next) where
  takes read := by
    obtain ⟨value, between, one, two⟩ := bind_eq_ok_iff.mp read
    exact Nat.lt_of_le_of_lt ((forward value).leads two).rest.length_le (Takes.takes one)

instance (first : TokenReader α) (next : α → TokenReader β) [Takes first]
    [forward : ∀ value, Forward (next value)] : Takes (first >>= next) := .followed forward

/-- What follows a reader takes its tokens from what the reader leaves. -/
theorem length_lt_of_bind {first : TokenReader α} {next : α → TokenReader β} [Forward first]
    {input after : Input} {value : β} (read : (first >>= next) input = .ok (value, after))
    (takes : ∀ found between, next found between = .ok (value, after) →
      after.rest.visible.length < between.rest.visible.length) :
    after.rest.visible.length < input.rest.visible.length := by
  obtain ⟨found, between, one, two⟩ := bind_eq_ok_iff.mp read
  exact Nat.lt_of_lt_of_le (takes found between two) (Forward.leads one).rest.length_le

/-- It is enough that what follows takes a token. -/
theorem Takes.bind {first : TokenReader α} {next : α → TokenReader β} [Forward first]
    (takes : ∀ value, Takes (next value)) : Takes (first >>= next) where
  takes read := length_lt_of_bind read fun found _ => (takes found).takes

instance (first : TokenReader α) (next : α → TokenReader β) [Forward first]
    [takes : ∀ value, Takes (next value)] : Takes (first >>= next) := .bind takes

/-- A reader or another one, if it is known of the other. -/
theorem Takes.ite {condition : Prop} [Decidable condition] {yes no : TokenReader α}
    [Takes yes] (takes : Takes no) : Takes (if condition then yes else no) := by
  split <;> infer_instance

instance (condition : Prop) [Decidable condition] (yes no : TokenReader α) [Takes yes]
    [takes : Takes no] : Takes (if condition then yes else no) := .ite takes

/-! ### Readers that look and readers that fail -/

/-- A reader that stays where it is. -/
theorem Forward.of_stays {reader : TokenReader α}
    (stays : ∀ {input after value}, reader input = .ok (value, after) → after = input) :
    Forward reader where
  leads read := by
    rw [stays read]
    exact .refl _

instance : Forward ahead := .of_stays fun read => by cases read; rfl

instance : Forward atEnd := .of_stays fun read => by cases read; rfl

instance : Forward place := .of_stays fun read => by cases read; rfl

instance (start : Tokens) : Forward (taken start) := by
  unfold taken
  infer_instance

theorem succeeds_eq_ok {reader : TokenReader α} {input after : Input} {found : Option (α × Tokens)}
    (read : succeeds reader input = .ok (found, after)) :
    after = input ∧ ∀ value rest, found = some (value, rest) →
      ∃ done, reader input = .ok (value, done) ∧ done.rest = rest := by
  unfold succeeds at read
  split at read
  · rename_i value done one
    cases read
    refine ⟨rfl, ?_⟩
    intro value rest same
    cases same
    exact ⟨done, one, rfl⟩
  · cases read
    exact ⟨rfl, nofun⟩

instance (reader : TokenReader α) : Forward (succeeds reader) :=
  .of_stays fun read => (succeeds_eq_ok read).1

instance : Forward (resume []) where
  leads read := by
    cases read
    exact .of_suffix (by simp)

instance (cause : SyntaxCause) : Fails (failWith cause : TokenReader α) := ⟨nofun⟩

instance (cause : SyntaxCause) (span : Span) : Fails (failAt cause span : TokenReader α) :=
  ⟨nofun⟩

instance (what : String) : Fails (expected what : TokenReader α) := ⟨nofun⟩

instance (forms : List String) : Fails (expectedOneOf forms : TokenReader α) := by
  unfold expectedOneOf
  infer_instance

/-! ### Readers of a token -/

/-- The reader takes the next token if it succeeds, and looks at nothing else. -/
def TakesNext (reader : TokenReader α) : Prop :=
  ∀ input after value, reader input = .ok (value, after) →
    ∃ (token : Token) (rest : Tokens), input.rest.expose = token :: rest ∧
      after = { input with rest := rest } ∧
      ∀ (other : Input) (behind : Tokens), other.rest.expose = token :: behind →
        reader other = .ok (value, { other with rest := behind })

theorem TakesNext.forward {reader : TokenReader α} (next : TakesNext reader) : Forward reader where
  leads read := by
    obtain ⟨token, rest, front, rfl, -⟩ := next _ _ _ read
    exact .of_expose front

theorem TakesNext.takes {reader : TokenReader α} (next : TakesNext reader) : Takes reader where
  takes read := by
    obtain ⟨token, rest, front, rfl, -⟩ := next _ _ _ read
    rw [Tokens.visible_of_expose front]
    exact Nat.lt_succ_self _

/-- A reserved word is the next token. -/
theorem keyword_eq_ok {text : String} {input after : Input} {word : Tokens}
    (read : keyword text input = .ok (word, after)) :
    ∃ (span : Span) (rest : Tokens), input.rest.expose = .ident text span :: rest ∧
      word = [.ident text span] ∧ after = { input with rest := rest } := by
  unfold keyword at read
  split at read
  · rename_i name span rest front
    split at read
    · rename_i same
      subst same
      cases read
      exact ⟨span, rest, front, rfl, rfl⟩
    · exact absurd read Fails.fails
  · exact absurd read Fails.fails

theorem takesNext_keyword (text : String) : TakesNext (keyword text) := by
  intro input after value read
  obtain ⟨span, rest, front, rfl, rfl⟩ := keyword_eq_ok read
  exact ⟨_, _, front, rfl, fun other behind next => by simp [keyword, next]⟩

theorem anyIdent_of_front {input : Input} {text : String} {span : Span} {rest : Tokens}
    (front : input.rest.expose = .ident text span :: rest) :
    anyIdent input = .ok (⟨text, span⟩, { input with rest := rest }) := by
  simp [anyIdent, front]

theorem takesNext_anyIdent : TakesNext anyIdent := by
  intro input after value read
  unfold anyIdent at read
  split at read
  · rename_i text span rest front
    cases read
    exact ⟨_, _, front, rfl, fun other behind next => by simp [anyIdent, next]⟩
  · exact absurd read Fails.fails

theorem takesNext_ident : TakesNext ident := by
  intro input after value read
  unfold ident at read
  split at read
  · rename_i text span rest front
    split at read
    · rename_i free
      cases read
      exact ⟨_, _, front, rfl, fun other behind next => by simp [ident, next, free]⟩
    · cases read
  · exact absurd read Fails.fails

theorem takesNext_literal : TakesNext literal := by
  intro input after value read
  unfold literal at read
  split at read
  · rename_i text span rest front
    cases read
    exact ⟨_, _, front, rfl, fun other behind next => by simp [literal, next]⟩
  · rename_i text span rest front
    split at read
    · rename_i truth
      cases read
      exact ⟨_, _, front, rfl, fun other behind next => by
        simp only [literal, next]
        rw [if_pos truth]⟩
    · exact absurd read Fails.fails
  · exact absurd read Fails.fails

instance (text : String) : Forward (keyword text) := (takesNext_keyword text).forward

instance (text : String) : Takes (keyword text) := (takesNext_keyword text).takes

instance : Forward anyIdent := takesNext_anyIdent.forward

instance : Takes anyIdent := takesNext_anyIdent.takes

instance : Forward ident := takesNext_ident.forward

instance : Takes ident := takesNext_ident.takes

instance : Forward literal := takesNext_literal.forward

instance : Takes literal := takesNext_literal.takes

instance : Forward anyWord := by
  unfold anyWord
  infer_instance

instance : Forward name := by
  unfold name
  infer_instance

/-- What is behind a lifetime is behind two tokens. -/
theorem lifetime_eq_ok {input after : Input} {tokens : Tokens}
    (read : lifetime input = .ok (tokens, after)) :
    ∃ (mark : Token) (word : Ident) (rest : Tokens), input.rest.expose =
        mark :: .ident word.text word.span :: rest ∧
      after = { input with rest := rest } := by
  unfold lifetime at read
  split at read
  · rename_i place name span rest front
    cases read
    exact ⟨_, ⟨name, span⟩, _, front, rfl⟩
  · exact absurd read Fails.fails

instance : Takes lifetime where
  takes read := by
    obtain ⟨mark, word, rest, front, rfl⟩ := lifetime_eq_ok read
    rw [Tokens.visible_of_expose front]
    simp only [Tokens.visible_cons, Tokens.visible_ident, List.length_cons, List.length_append]
    omega

instance : Forward lifetime where
  leads read := by
    obtain ⟨mark, word, rest, front, rfl⟩ := lifetime_eq_ok read
    refine .of_suffix ?_
    rw [Tokens.visible_of_expose front, Tokens.visible_cons]
    exact ((List.suffix_append _ _).trans (List.suffix_cons _ _))

/-- The first character of an operator ends it, or is joint to the next. -/
theorem splitChars?_cons_iff {c : Char} {cs : List Char} {tokens taken rest : Tokens} :
    splitChars? (c :: cs) tokens = some (taken, rest) ↔
      ∃ spacing span behind, tokens.expose = .punct c spacing span :: behind ∧
        (cs = [] ∧ taken = [.punct c .alone span] ∧ rest = behind ∨
          cs ≠ [] ∧ spacing = .joint ∧ ∃ more, splitChars? cs behind = some (more, rest) ∧
            taken = .punct c .joint span :: more) := by
  rw [splitChars?]
  constructor
  · intro split
    split at split
    · rename_i d spacing span behind front
      split at split
      · rename_i same
        subst same
        refine ⟨spacing, span, behind, front, ?_⟩
        split at split
        · rename_i single
          cases split
          exact .inl ⟨List.isEmpty_iff.mp single, rfl, rfl⟩
        · rename_i several
          split at split
          · rename_i joint
            obtain ⟨⟨more, last⟩, found, same⟩ := Option.map_eq_some_iff.mp split
            cases same
            exact .inr ⟨fun none => several (by simp [none]), joint, more, found, rfl⟩
          · cases split
      · cases split
    · cases split
  · rintro ⟨spacing, span, behind, front, ⟨rfl, rfl, rfl⟩ | ⟨several, rfl, more, found, rfl⟩⟩
    · simp [front]
    · simp [front, several, found]

/-- Each character of an operator is a token. -/
theorem splitChars?_eq_some {chars : List Char} {tokens taken rest : Tokens}
    (split : splitChars? chars tokens = some (taken, rest)) :
    rest.visible <:+ tokens.visible ∧
      rest.visible.length + chars.length = tokens.visible.length := by
  induction chars generalizing tokens taken with
  | nil =>
      cases split
      exact ⟨List.suffix_rfl, rfl⟩
  | cons c cs ih =>
      obtain ⟨spacing, span, behind, front, further⟩ := splitChars?_cons_iff.mp split
      rw [Tokens.visible_of_expose front]
      obtain ⟨rfl, -, rfl⟩ | ⟨-, -, more, found, -⟩ := further
      · exact ⟨List.suffix_cons _ _, rfl⟩
      · obtain ⟨suffix, length⟩ := ih found
        refine ⟨suffix.trans (List.suffix_cons _ _), ?_⟩
        rw [List.length_cons, List.length_cons, ← length, Nat.add_assoc]

theorem operator_eq_ok {text : String} {input after : Input} {tokens : Tokens}
    (read : operator text input = .ok (tokens, after)) :
    ∃ rest, splitChars? text.toList input.rest = some (tokens, rest) ∧
      after = { input with rest := rest } := by
  unfold operator at read
  split at read
  · rename_i found rest split
    cases read
    exact ⟨_, split, rfl⟩
  · cases read

theorem operator_iff {text : String} {input after : Input} {tokens : Tokens} :
    operator text input = .ok (tokens, after) ↔
      ∃ rest, splitChars? text.toList input.rest = some (tokens, rest) ∧
        after = { input with rest := rest } := by
  refine ⟨operator_eq_ok, ?_⟩
  rintro ⟨rest, split, rfl⟩
  simp [operator, split]

theorem operator_single_iff {text : String} {c : Char} (chars : text.toList = [c])
    {input after : Input} {tokens : Tokens} :
    operator text input = .ok (tokens, after) ↔
      ∃ spacing span rest, input.rest.expose = .punct c spacing span :: rest ∧
        tokens = [.punct c .alone span] ∧ after = { input with rest := rest } := by
  simp only [operator_iff, chars, splitChars?_cons_iff]
  constructor
  · rintro ⟨rest, ⟨spacing, span, behind, front, ⟨-, rfl, rfl⟩ | ⟨several, -⟩⟩, rfl⟩
    · exact ⟨spacing, span, rest, front, rfl, rfl⟩
    · exact absurd rfl several
  · rintro ⟨spacing, span, rest, front, rfl, rfl⟩
    exact ⟨rest, ⟨spacing, span, rest, front, .inl ⟨trivial, rfl, rfl⟩⟩, rfl⟩

theorem operator_double_iff {text : String} {c d : Char} (chars : text.toList = [c, d])
    {input after : Input} {tokens : Tokens} :
    operator text input = .ok (tokens, after) ↔
      ∃ first between spacing span rest,
        input.rest.expose = .punct c .joint first :: between ∧
        Tokens.expose between = .punct d spacing span :: rest ∧
        tokens = [.punct c .joint first, .punct d .alone span] ∧
        after = { input with rest := rest } := by
  simp only [operator_iff, chars, splitChars?_cons_iff]
  constructor
  · rintro ⟨rest, ⟨spacing, first, between, front, ⟨single, -⟩ | ⟨-, rfl, more, next, rfl⟩⟩, rfl⟩
    · cases single
    · obtain ⟨spacing, span, behind, next, ⟨-, rfl, rfl⟩ | ⟨several, -⟩⟩ := next
      · exact ⟨first, between, spacing, span, rest, front, next, rfl, rfl⟩
      · exact absurd rfl several
  · rintro ⟨first, between, spacing, span, rest, front, next, rfl, rfl⟩
    refine ⟨rest, ⟨.joint, first, between, front, .inr ⟨by simp, rfl, _, ?_, rfl⟩⟩, rfl⟩
    exact ⟨spacing, span, rest, next, .inl ⟨trivial, rfl, rfl⟩⟩

instance (text : String) : Forward (operator text) where
  leads read := by
    obtain ⟨rest, split, rfl⟩ := operator_eq_ok read
    exact .of_suffix (splitChars?_eq_some split).1

/-- An operator has a character. -/
theorem takes_operator {text : String} (some : text.toList ≠ []) : Takes (operator text) where
  takes read := by
    obtain ⟨rest, split, rfl⟩ := operator_eq_ok read
    have length := (splitChars?_eq_some split).2
    have := List.length_pos_iff.mpr some
    dsimp only
    omega

instance : Forward anyGroup where
  leads read := by
    unfold anyGroup at read
    split at read
    · exact absurd read Fails.fails
    · rename_i delimiter inner span rest shown front
      cases read
      refine .of_suffix ?_
      rw [front, Tokens.visible_cons]
      exact List.suffix_append _ _
    · exact absurd read Fails.fails

instance : Forward everything where
  leads read := by
    cases read
    exact .of_suffix (by simp)

/-! ### Readers of a group -/

theorem inside_eq_ok {content : TokenReader α} {delimiter : Delimiter} {inner rest : Tokens}
    {span : Span} {input after : Input} {value : α}
    (read : inside content delimiter inner span rest input = .ok (value, after)) :
    ∃ done, content ⟨inner, delimiter, span.last, input.leftover⟩ = .ok (value, done) ∧
      after = { input with
        rest := rest
        leftover := done.leftover <|> done.rest.leftover? delimiter } := by
  unfold inside at read
  split at read
  · cases read
  · rename_i found done content
    cases read
    exact ⟨done, content, rfl⟩

/-- Going on behind a group is going forward, and what was left over before is still known. -/
theorem leads_of_inside {content : TokenReader α} [Forward content] {delimiter : Delimiter}
    {inner rest : Tokens} {span : Span} {input after : Input} {value : α}
    (read : inside content delimiter inner span rest input = .ok (value, after))
    (suffix : rest.visible <:+ input.rest.visible) : input.Leads after := by
  obtain ⟨done, content, rfl⟩ := inside_eq_ok read
  refine ⟨suffix, rfl, rfl, ?_⟩
  intro error some
  have kept := (Forward.leads content).leftover error some
  simp [kept]

theorem group_eq_ok {content : TokenReader α} {delimiter : Delimiter} {input after : Input}
    {value : α × Span} (read : group delimiter content input = .ok (value, after)) :
    ∃ inner span rest, input.rest.expose = .group delimiter inner span :: rest ∧
      inside (do return (← content, span)) delimiter inner span rest input =
        .ok (value, after) := by
  unfold group at read
  split at read
  · rename_i d inner span rest front
    split at read
    · rename_i same
      subst same
      exact ⟨inner, span, rest, front, read⟩
    · exact absurd read Fails.fails
  · exact absurd read Fails.fails

instance (delimiter : Delimiter) (content : TokenReader α) [Forward content] :
    Forward (group delimiter content) where
  leads read := by
    obtain ⟨inner, span, rest, front, read⟩ := group_eq_ok read
    refine leads_of_inside read ?_
    rw [Tokens.visible_of_expose front]
    exact List.suffix_cons _ _

instance (delimiter : Delimiter) (content : TokenReader α) : Takes (group delimiter content) where
  takes read := by
    obtain ⟨inner, span, rest, front, read⟩ := group_eq_ok read
    obtain ⟨done, -, rfl⟩ := inside_eq_ok read
    rw [Tokens.visible_of_expose front]
    exact Nat.lt_succ_self _

theorem invisible_eq_ok {content : TokenReader α} {input after : Input} {value : α × Span}
    (read : invisible content input = .ok (value, after)) :
    ∃ inner span rest, input.rest = .group .invisible inner span :: rest ∧
      inside (do return (← content, span)) .invisible inner span rest input =
        .ok (value, after) := by
  unfold invisible at read
  split at read
  · rename_i inner span rest front
    exact ⟨inner, span, rest, front, read⟩
  · exact absurd read Fails.fails

instance (content : TokenReader α) [Forward content] : Forward (invisible content) where
  leads read := by
    obtain ⟨inner, span, rest, front, read⟩ := invisible_eq_ok read
    refine leads_of_inside read ?_
    rw [front, Tokens.visible_cons]
    exact List.suffix_append _ _

/-- An invisible group is seen only by its content. -/
instance (content : TokenReader α) [Takes content] : Takes (invisible content) where
  takes read := by
    obtain ⟨inner, span, rest, front, read⟩ := invisible_eq_ok read
    obtain ⟨done, content, rfl⟩ := inside_eq_ok read
    obtain ⟨found, between, content, -⟩ := bind_eq_ok_iff.mp content
    have taken := Takes.takes content
    rw [front, Tokens.visible_cons, Tokens.visible_invisible, List.length_append]
    dsimp only at taken ⊢
    omega

instance (delimiter : Delimiter) (content : TokenReader Tokens) [Forward content] :
    Forward (grouped delimiter content) := by
  unfold grouped
  infer_instance

instance (delimiter : Delimiter) (content : TokenReader Tokens) :
    Takes (grouped delimiter content) := by
  unfold grouped
  infer_instance

/-! ### Optional and repeated parts -/

theorem ifAhead_of_false {input : Input} {condition : Tokens → Bool} {part : TokenReader Tokens}
    (missing : condition input.rest = false) : ifAhead condition part input = .ok ([], input) := by
  rw [ifAhead, bind_of_ok (ahead_eq _), if_neg (by simp [missing])]
  rfl

theorem ifAhead_of_true {input : Input} {condition : Tokens → Bool} {part : TokenReader Tokens}
    (there : condition input.rest = true) : ifAhead condition part input = part input := by
  rw [ifAhead, bind_of_ok (ahead_eq _), if_pos there]


instance (condition : Tokens → Bool) (part : TokenReader Tokens) [Forward part] :
    Forward (ifAhead condition part) := by
  unfold ifAhead
  infer_instance

instance (text : String) : Forward (operator? text) := by
  unfold operator?
  infer_instance

instance (text : String) : Forward (keyword? text) := by
  unfold keyword?
  infer_instance

instance : Forward lifetime? := by
  unfold lifetime?
  infer_instance

instance : Forward signedLiteral := by
  unfold signedLiteral
  infer_instance

instance (more : Tokens → Bool) (part : TokenReader Tokens) [Forward part] (bound : Nat) :
    Forward (repeatWhile.go more part bound) := by
  induction bound with
  | zero => rw [repeatWhile.go]; infer_instance
  | succ bound ih => rw [repeatWhile.go]; infer_instance

instance (more : Tokens → Bool) (part : TokenReader Tokens) [Forward part] :
    Forward (repeatWhile more part) := by
  unfold repeatWhile
  infer_instance

instance (separator : String) (before after : Tokens → Bool) (part : TokenReader Tokens)
    [Forward part] (bound : Nat) :
    Forward (separatedBy.go separator before after part bound) := by
  induction bound with
  | zero => rw [separatedBy.go]; infer_instance
  | succ bound ih => rw [separatedBy.go]; infer_instance

instance (separator : String) (before after : Tokens → Bool) (part : TokenReader Tokens)
    [Forward part] : Forward (separatedBy separator before after part) := by
  unfold separatedBy
  infer_instance

instance (separator : String) (stop : Tokens → Bool) (part : TokenReader Tokens) [Forward part] :
    Forward (separated separator stop part) := by
  unfold separated
  infer_instance

instance (reader : TokenReader α) [Forward reader] : Forward (asWritten reader) := by
  unfold asWritten
  infer_instance

end TokenReader

end MacroExpansion
