import MacroExpansion.Proofs.Reading.Boundary

/-!
# Receivers and other parameters

A parameter of a function is taken for a receiver if it can be read as one. A grammar that does not
nest deep enough for the type of the receiver does not read it, and goes on to look for a pattern
and a type; there it meets the same type, and fails. So what a parameter is read as does not depend
on how deep the grammar nests.

`Grammar.LooksAtFront` is what this takes: no type begins with a dot or a single colon, and the name
of a receiver is a pattern of its own, unless it goes on as a path.
-/

namespace MacroExpansion

open TokenReader

/-- What a type may begin with: no dot, and no colon but that of a separator. -/
structure Tokens.BeginsType (tokens : Tokens) : Prop where
  some : tokens.expose ≠ []
  dot : tokens.sees "." = false
  colon : tokens.sees ":" = true → tokens.sees "::" = true

/-- An invisible group begins with what is in it. -/
theorem Tokens.BeginsType.invisible {inner : Tokens} (begins : inner.BeginsType) (span : Span)
    (rest : Tokens) : Tokens.BeginsType (.group .invisible inner span :: rest) := by
  obtain ⟨token, more, next⟩ := List.exists_cons_of_ne_nil begins.some
  have next' := Tokens.expose_append_of_cons next rest
  have same := (Tokens.expose_invisible_of_cons next span rest).trans next'.symm
  have single (text : String) {c : Char} (chars : text.toList = [c]) :
      (inner ++ rest).sees text = inner.sees text := by
    rw [Tokens.sees, Tokens.sees, chars, Tokens.seesChars, Tokens.seesChars, next, next']
    cases token <;> rfl
  refine ⟨?_, ?_, fun colon => ?_⟩
  · simp [same, next']
  · rw [Tokens.sees_congr same, single "." rfl]
    exact begins.dot
  · rw [Tokens.sees_congr same, single ":" rfl] at colon
    rw [Tokens.sees_congr same]
    exact Tokens.seesChars_append (begins.colon colon) rest

/-- The name of a receiver is read up to the other point. -/
def Input.ReceivesTo (input after : Input) : Prop :=
  ∃ access between self, keyword? "mut" input = .ok (access, between) ∧
    keyword "self" between = .ok (self, after)

theorem Input.ReceivesTo.front {input after : Input} (receives : input.ReceivesTo after) :
    (∃ span rest, input.rest.expose = .ident "mut" span :: rest) ∨
      ∃ span rest, input.rest.expose = .ident "self" span :: rest ∧
        after = { input with rest := rest } := by
  obtain ⟨access, between, self, changing, read⟩ := receives
  cases seen : input.rest.seesWord "mut" with
  | true =>
      rw [keyword?, ifAhead_of_true seen] at changing
      obtain ⟨span, rest, front, -⟩ := keyword_eq_ok changing
      exact .inl ⟨span, rest, front⟩
  | false =>
      rw [keyword?, ifAhead_of_false seen] at changing
      cases changing
      obtain ⟨span, rest, front, -, rfl⟩ := keyword_eq_ok read
      exact .inr ⟨span, rest, front, rfl⟩

namespace Grammar

variable {g g' : Grammar}

/-- Where none of the marks of a type is seen, none begins. -/
theorem typeRule_of_none (plus generic : Bool) {input : Input}
    (shown : input.rest.seesInvisible = false) (word : input.rest.word? = none)
    (group : ∀ delimiter, input.rest.seesGroup delimiter = false)
    (mark : ∀ text ∈ ["::", "<", "*", "&", "!"], input.rest.sees text = false)
    (lifetime : input.rest.seesLifetime = false) :
    typeRule g plus generic input = expectedOneOf typeForms input := by
  have seen (text : String) : input.rest.seesWord text = false := by simp [Tokens.seesWord, word]
  simp only [List.mem_cons, List.not_mem_nil, or_false, forall_eq_or_imp, forall_eq] at mark
  obtain ⟨separator, angle, star, reference, never⟩ := mark
  have path : seesPath input.rest = false := by
    simp [seesPath, Tokens.seesName, word, Tokens.seesWords, seen, separator, angle]
  rw [typeRule, bind_of_ok (ahead_eq _)]
  simp only [shown, seen, group, Tokens.seesWords, List.any_cons, List.any_nil, Bool.or_false, path,
    star, reference, never, lifetime, Bool.false_eq_true, if_false]

/-- Readers of types and of patterns look at the front. -/
class LooksAtFront (g : Grammar) : Prop where
  typeCode {plus generic : Bool} {input after : Input} {value : TypeCode}
    (read : g.typeCode plus generic input = .ok (value, after)) : input.rest.BeginsType
  single {input after behind : Input} {pattern : Pattern} (receives : input.ReceivesTo behind)
    (colon : behind.rest.sees ":" = true) (read : g.single input = .ok (pattern, after)) :
    after = behind ∨ (behind.rest.sees "::" = true ∧ behind.rest.third.word?.isSome = true)

theorem beginsType_of_hiddenType [LooksAtFront g] {generic : Bool} {input after : Input}
    {value : TypeCode} (read : hiddenType g generic input = .ok (value, after)) :
    input.rest.BeginsType := by
  obtain ⟨found, between, read, -⟩ := bind_eq_ok_iff.mp read
  obtain ⟨inner, span, rest, front, read⟩ := invisible_eq_ok read
  obtain ⟨done, content, rfl⟩ := inside_eq_ok read
  obtain ⟨type, behind, content, -⟩ := bind_eq_ok_iff.mp content
  rw [front]
  exact (LooksAtFront.typeCode content).invisible span rest

/-- One more level of nesting still looks at the front of a type. -/
theorem beginsType_of_typeRule [LooksAtFront g] {plus generic : Bool} {input after : Input}
    {value : TypeCode} (read : typeRule g plus generic input = .ok (value, after)) :
    input.rest.BeginsType := by
  cases shown : input.rest.seesInvisible with
  | true =>
      rw [typeRule, bind_of_ok (ahead_eq _), if_pos shown] at read
      exact beginsType_of_hiddenType read
  | false =>
      have fails (word : input.rest.word? = none)
          (group : ∀ delimiter, input.rest.seesGroup delimiter = false)
          (mark : ∀ text ∈ ["::", "<", "*", "&", "!"], input.rest.sees text = false)
          (lifetime : input.rest.seesLifetime = false) : False := by
        rw [typeRule_of_none plus generic shown word group mark lifetime] at read
        exact absurd read Fails.fails
      refine ⟨fun none => ?_, ?_, fun colon => ?_⟩
      · refine fails ?_ ?_ ?_ ?_ <;>
          simp [Tokens.word?, Tokens.seesGroup, Tokens.sees, Tokens.seesChars,
            Tokens.seesLifetime, none]
      · rw [Bool.eq_false_iff]
        intro dot
        obtain ⟨spacing, span, rest, front⟩ := Tokens.front_of_sees (c := '.') rfl dot
        refine fails ?_ ?_ ?_ ?_ <;>
          simp [Tokens.word?, Tokens.seesGroup, Tokens.sees, Tokens.seesChars,
            Tokens.seesLifetime, front]
      · rw [← Bool.not_eq_false]
        intro separator
        obtain ⟨spacing, span, rest, front⟩ := Tokens.front_of_sees (c := ':') rfl colon
        refine fails ?_ ?_ ?_ ?_
        · simp [Tokens.word?, front]
        · simp [Tokens.seesGroup, front]
        · simp only [List.mem_cons, List.not_mem_nil, or_false, forall_eq_or_imp, forall_eq,
            separator]
          simp [Tokens.sees, Tokens.seesChars, front]
        · simp [Tokens.seesLifetime, front]

/-- The name of a receiver is a pattern, unless a separator follows it. -/
theorem singleRule_of_word {input : Input} {word : String} {span : Span} {more : Tokens}
    (front : input.rest.expose = .ident word span :: more) (among : word = "self" ∨ word = "mut")
    (path : seesPathPattern input.rest = false) :
    singleRule g input = (do return Pattern.plain (← namePattern g)) input := by
  have minus : input.rest.sees "-" = false := by simp [Tokens.sees, Tokens.seesChars, front]
  rw [singleRule, bind_of_ok (ahead_eq _)]
  obtain rfl | rfl := among <;>
    simp [path, minus, Tokens.seesWords, Tokens.seesWord, Tokens.word?, Tokens.seesLiteral, front]

theorem namePattern_of_receives {input after : Input} (receives : input.ReceivesTo after)
    (colon : after.rest.sees ":" = true) : ∃ tokens, namePattern g input = .ok (tokens, after) := by
  have reference : keyword? "ref" input = .ok ([], input) := by
    refine ifAhead_of_false ?_
    obtain ⟨span, rest, front⟩ | ⟨span, rest, front, -⟩ := receives.front <;>
      simp [Tokens.seesWord, Tokens.word?, front]
  obtain ⟨access, between, self, changing, read⟩ := receives
  obtain ⟨span, rest, front, -, rfl⟩ := keyword_eq_ok read
  have word : between.rest.seesWord "self" = true := by
    simp [Tokens.seesWord, Tokens.word?, front]
  have bound : anyWord between = .ok (.ident "self" span, { between with rest := rest }) := by
    rw [anyWord, bind_of_ok (anyIdent_of_front front)]
    rfl
  obtain ⟨spacing, place, behind, next⟩ := Tokens.front_of_sees (c := ':') rfl colon
  have inner (part : TokenReader Tokens) :
      ifAhead (·.sees "@") part { between with rest := rest } =
        .ok ([], { between with rest := rest }) :=
    ifAhead_of_false (by simp [Tokens.sees, Tokens.seesChars, next])
  rw [namePattern, bind_of_ok reference, bind_of_ok changing, bind_of_ok (ahead_eq _),
    if_pos word, bind_of_ok bound]
  exact ⟨_, bind_of_ok (inner _)⟩

/-- A step of a path is a word. -/
theorem isSome_word?_of_pathSegment {inType : Bool} {separator : Tokens} {input after : Input}
    {segment : PathSegment} (read : pathSegment g inType separator input = .ok (segment, after)) :
    input.rest.word?.isSome = true := by
  rw [pathSegment, bind_of_ok (ahead_eq _)] at read
  cases word : input.rest.word? with
  | some text => rfl
  | none =>
      have reserved : input.rest.seesWords placeWords = false := by
        simp [placeWords, Tokens.seesWords, Tokens.seesWord, word]
      have self : input.rest.seesWord "Self" = false := by simp [Tokens.seesWord, word]
      rw [reserved, self] at read
      obtain ⟨step, between, read, -⟩ := bind_eq_ok_iff.mp read
      unfold ident at read
      split at read
      · rename_i front
        simp [Tokens.word?, front] at word
      · exact absurd read Fails.fails

/-- Behind the separator that follows the name of a receiver, a path has another word. -/
theorem pathPattern_of_self {input after : Input} {rest : Tokens} {span : Span} {pattern : Pattern}
    (self : input.rest.expose = .ident "self" span :: rest) (separator : rest.sees "::" = true)
    (read : pathPattern g input = .ok (pattern, after)) :
    after = { input with rest := rest } ∨ rest.third.word?.isSome = true := by
  have angle : input.rest.sees "<" = false := by simp [Tokens.sees, Tokens.seesChars, self]
  have leading : operator? "::" input = .ok ([], input) :=
    ifAhead_of_false (by simp [Tokens.sees, Tokens.seesChars, self])
  have first : pathSegment g false [] input =
      .ok (⟨[], ⟨"self", span⟩, []⟩, { input with rest := rest }) := by
    rw [pathSegment, bind_of_ok (ahead_eq _), if_pos]
    · rw [bind_of_ok (anyIdent_of_front self)]
      rfl
    · simp [placeWords, Tokens.seesWords, Tokens.seesWord, Tokens.word?, self]
  obtain ⟨path, between, toPath, read⟩ := bind_eq_ok_iff.mp read
  rw [anyPath, bind_of_ok (ahead_eq _), if_neg (by simp [angle]), simplePath, bind_of_ok leading,
    bind_of_ok first] at toPath
  obtain ⟨steps, behind, toSteps, toPath⟩ := bind_eq_ok_iff.mp toPath
  obtain ⟨spacing, place, more, front⟩ := Tokens.front_of_sees (c := ':') rfl separator
  obtain ⟨size, room⟩ : ∃ size, Tokens.size rest = size + 1 := by
    refine Nat.exists_eq_succ_of_ne_zero (Nat.ne_of_gt ?_)
    refine Nat.lt_of_lt_of_le ?_ (Tokens.length_visible_le rest)
    rw [Tokens.visible_of_expose front]
    exact Nat.succ_pos _
  rw [pathRest, bind_of_ok (ahead_eq _), room, pathRest.go, bind_of_ok (ahead_eq _)] at toSteps
  cases goesOn : pathGoesOn rest with
  | true =>
      rw [if_pos goesOn] at toSteps
      obtain ⟨mark, next, toNext, toSteps⟩ := bind_eq_ok_iff.mp toSteps
      obtain ⟨segment, further, toSegment, -⟩ := bind_eq_ok_iff.mp toSteps
      obtain ⟨place, between, spacing, span, last, first, second, -, rfl⟩ :=
        (operator_double_iff (c := ':') (d := ':') rfl).mp toNext
      have third : Tokens.third rest = last := by
        simp [Tokens.third, Tokens.second, first, second]
      rw [third]
      exact .inr (isSome_word?_of_pathSegment toSegment)
  | false =>
      rw [if_neg (by simp [goesOn])] at toSteps
      cases toSteps
      cases toPath
      have bang : Tokens.sees "!" rest = false := by simp [Tokens.sees, Tokens.seesChars, front]
      have dots : Tokens.sees ".." rest = false := by simp [Tokens.sees, Tokens.seesChars, front]
      have group (delimiter : Delimiter) : Tokens.seesGroup delimiter rest = false := by
        simp [Tokens.seesGroup, front]
      rw [bind_of_ok (ahead_eq _)] at read
      simp only [bang, dots, group, Bool.and_false, Bool.false_and, Bool.false_eq_true,
        if_false] at read
      cases read
      exact .inl rfl

/-- One more level of nesting still stops behind the name of a receiver, or goes on as a path. -/
theorem singleRule_of_receives {input after behind : Input} {pattern : Pattern}
    (receives : input.ReceivesTo behind) (colon : behind.rest.sees ":" = true)
    (read : singleRule g input = .ok (pattern, after)) :
    after = behind ∨ (behind.rest.sees "::" = true ∧ behind.rest.third.word?.isSome = true) := by
  have reserved : Identifier.isName "self" = false ∧ Identifier.isName "mut" = false := by decide
  obtain ⟨tokens, named⟩ := namePattern_of_receives (g := g) receives colon
  obtain ⟨span, rest, front⟩ | ⟨span, rest, front, rfl⟩ := receives.front
  · rw [singleRule_of_word front (.inr rfl), bind_of_ok named] at read
    · cases read
      exact .inl rfl
    · simp [seesPathPattern, reserved, Tokens.seesName, Tokens.seesWords, Tokens.seesWord,
        Tokens.word?, Tokens.sees, Tokens.seesChars, front]
  · have second : input.rest.second = rest := by simp [Tokens.second, front]
    cases separator : Tokens.sees "::" rest with
    | true =>
        rw [singleRule, bind_of_ok (ahead_eq _), if_pos] at read
        · exact (pathPattern_of_self front separator read).imp_right fun word => ⟨rfl, word⟩
        · simp [seesPathPattern, Tokens.seesWord, Tokens.word?, front, second, separator]
    | false =>
        rw [singleRule_of_word front (.inl rfl), bind_of_ok named] at read
        · cases read
          exact .inl rfl
        · have marks : input.rest.sees "::" = false ∧ input.rest.sees "<" = false := by
            simp [Tokens.sees, Tokens.seesChars, front]
          simp [seesPathPattern, second, separator, marks, reserved, Tokens.seesName,
            Tokens.seesWords, Tokens.seesWord, Tokens.word?, front]

instance : LooksAtFront nothing where
  typeCode read := nomatch read
  single _ _ read := nomatch read

instance [LooksAtFront g] : LooksAtFront (deepen g) where
  typeCode read := beginsType_of_typeRule read
  single receives colon read := singleRule_of_receives receives colon read

instance (depth : Nat) : LooksAtFront (ofDepth depth) := by
  induction depth with
  | zero => exact inferInstanceAs (LooksAtFront nothing)
  | succ depth ih => exact inferInstanceAs (LooksAtFront (deepen (ofDepth depth)))

/-- Nothing is taken if an operator is not there. -/
theorem stays_of_operator? {text : String} {c : Char} (chars : text.toList = [c])
    {input after : Input} {mark : Tokens} (read : operator? text input = .ok (mark, after))
    (empty : mark.isEmpty = true) : after = input := by
  cases there : input.rest.sees text with
  | true =>
      rw [operator?, ifAhead_of_true there] at read
      obtain ⟨spacing, span, rest, -, rfl, -⟩ := (operator_single_iff chars).mp read
      cases empty
  | false =>
      rw [operator?, ifAhead_of_false there] at read
      cases read
      rfl

/-- One grammar finds a receiver and another one does not: then there is a name in front of a type,
which only the first one reads. -/
theorem receiver_missed {input done : Input} {found : Tokens × Span} {error : SyntaxError}
    (missed : receiver g input = .error error) (there : receiver g' input = .ok (found, done)) :
    ∃ behind colon start type after, input.ReceivesTo behind ∧
      operator ":" behind = .ok (colon, start) ∧ g'.type true start = .ok (type, after) ∧
      ∀ other after, g.type true start ≠ .ok (other, after) := by
  unfold receiver at there missed
  obtain ⟨mark, one, toMark, further⟩ := bind_eq_ok_iff.mp there
  rw [bind_of_ok toMark] at missed
  cases empty : mark.isEmpty with
  | false =>
      -- A reference has no type.
      have same (part part' : TokenReader Tokens) :
          ifAhead (fun here => mark.isEmpty && here.sees ":") part =
            ifAhead (fun here => mark.isEmpty && here.sees ":") part' := by
        funext input
        rw [ifAhead_of_false (by simp [empty]), ifAhead_of_false (by simp [empty])]
      rw [same _ (do return (← operator ":") ++ (← g'.type true)), further] at missed
      cases missed
  | true =>
      obtain rfl : one = input := stays_of_operator? (c := '&') rfl toMark empty
      rw [if_pos empty, pure_bind] at further missed
      dsimp only at missed
      obtain ⟨access, two, toAccess, further⟩ := bind_eq_ok_iff.mp further
      obtain ⟨self, behind, toSelf, further⟩ := bind_eq_ok_iff.mp further
      obtain ⟨tokens, last, toType, -⟩ := bind_eq_ok_iff.mp further
      rw [bind_of_ok toAccess, bind_of_ok toSelf] at missed
      cases colon : behind.rest.sees ":" with
      | false =>
          rw [bind_of_ok (ifAhead_of_false (by simp [colon]))] at missed
          cases missed
      | true =>
          rw [ifAhead_of_true (by simp [empty, colon])] at toType
          obtain ⟨sign, start, toStart, toType⟩ := bind_eq_ok_iff.mp toType
          obtain ⟨type, after, toType, -⟩ := bind_eq_ok_iff.mp toType
          refine ⟨behind, sign, start, type, after, ⟨_, _, _, toAccess, toSelf⟩, toStart, toType,
            fun other after read => ?_⟩
          have part : (ifAhead (fun here => List.isEmpty mark && here.sees ":") do
              return (← operator ":") ++ (← g.type true)) behind = .ok (sign ++ other, after) := by
            rw [ifAhead_of_true (by simp [empty, colon]), bind_of_ok toStart, bind_of_ok read]
            rfl
          rw [bind_of_ok part] at missed
          cases missed

/-- The grammar that does not find the receiver finds no other parameter either. -/
theorem parameter_fails [LooksAtFront g] [LooksAtFront g'] {input after done : Input}
    {found : Tokens × Span} {error : SyntaxError} {value : Parameter}
    (missed : receiver g input = .error error) (there : receiver g' input = .ok (found, done)) :
    parameter g input ≠ .ok (value, after) := by
  obtain ⟨behind, colon, start, type, last, receives, toStart, toType, other⟩ :=
    receiver_missed missed there
  obtain ⟨spacing, span, rest, front, -, rfl⟩ :=
    (operator_single_iff (c := ':') rfl).mp toStart
  obtain ⟨code, done, toCode, -⟩ := bind_eq_ok_iff.mp toType
  have begins := LooksAtFront.typeCode toCode
  have reserved : Identifier.isName "self" = false ∧ Identifier.isName "mut" = false := by decide
  have word : input.rest.seesName = false ∧ input.rest.sees "..." = false := by
    obtain ⟨span, rest, front⟩ | ⟨span, rest, front, -⟩ := receives.front <;>
      simp [Tokens.seesName, Tokens.word?, Tokens.sees, Tokens.seesChars, front, reserved]
  have tried : TokenReader.succeeds (receiver g) input = .ok (none, input) := by
    simp [TokenReader.succeeds, missed]
  intro read
  unfold parameter at read
  rw [bind_of_ok (ahead_eq _), word.2, if_neg Bool.false_ne_true, bind_of_ok tried, word.1] at read
  obtain ⟨pattern, between, toPattern, read⟩ := bind_eq_ok_iff.mp read
  obtain rfl | ⟨separator, path⟩ :=
    LooksAtFront.single receives (Tokens.sees_of_front rfl front) toPattern
  · have dots : Tokens.sees "..." rest = false := by
      rw [Bool.eq_false_iff]
      intro dots
      obtain ⟨spacing, span, more, next⟩ := Tokens.front_of_sees (c := '.') rfl dots
      exact Bool.eq_false_iff.mp begins.dot (Tokens.sees_of_front rfl next)
    rw [bind_of_ok toStart, bind_of_ok (ahead_eq _), dots] at read
    obtain ⟨type, after, toType, -⟩ := bind_eq_ok_iff.mp read
    exact other _ _ toType
  · -- The type would begin with a colon in front of a word.
    obtain ⟨-, spacing, place, more, seen⟩ := (Tokens.sees_separator_iff front).mp separator
    obtain ⟨last, next, -⟩ := Tokens.expose_of_visible seen
    obtain ⟨-, spacing, place, more, seen⟩ :=
      (Tokens.sees_separator_iff next).mp (begins.colon (Tokens.sees_of_front rfl next))
    obtain ⟨_, further, -⟩ := Tokens.expose_of_visible seen
    have third : behind.rest.third = last := by simp [Tokens.third, Tokens.second, front, next]
    rw [third, Tokens.word?, further] at path
    cases path

end Grammar

end MacroExpansion
