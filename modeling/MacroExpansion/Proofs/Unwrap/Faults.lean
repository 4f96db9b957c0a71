import MacroExpansion.Proofs.Invocation.Grammar
import MacroExpansion.Proofs.Silence
import MacroExpansion.Token.Lexer

/-!
# Why an unwrapping is refused

The checks of an unwrapping come in a fixed order, and the first that fails decides. `Refused` says
which one that is and at which code it points: a second argument labelled as the body before
anything else, then two bodies or none, then the form of the body, and last the leftmost value that
is no name. An invocation is refused for this reason, there, and for no other.

A failure points at code through the tokens that the code prints: it reaches from the first to the
last of them. Printing may put parentheses around the end of an expression, which stand nowhere in
the source; the failure then points at the first token alone.
-/

namespace MacroExpansion

namespace Except

theorem bind_eq_error_iff {ε α β : Type} {first : Except ε α} {next : α → Except ε β}
    {failure : ε} :
    first >>= next = .error failure ↔
      first = .error failure ∨ ∃ found, first = .ok found ∧ next found = .error failure := by
  cases first with
  | error other => simp [Bind.bind, Except.bind]
  | ok found => simp [Bind.bind, Except.bind]

theorem map_eq_error_iff {ε α β : Type} {first : Except ε α} {f : α → β} {failure : ε} :
    first.map f = .error failure ↔ first = .error failure := by
  cases first with
  | error other => simp [Except.map]
  | ok found => simp [Except.map]

end Except

/-- The span of code that prints these tokens, or of the invocation at `site` if no code is meant.
It reaches from the first to the last token, unless one of them is made up. -/
inductive Located (site : Span) : Option Tokens → Span → Prop where
  | invocation : Located site none site
  | stretch {tokens : Tokens} {first last : Token} (begins : tokens.head? = some first)
      (ends : tokens.getLast? = some last) (written : first.span ≠ .callSite)
      (writtenLast : last.span ≠ .callSite) :
      Located site (some tokens) ⟨first.span.start, last.span.stop⟩
  | start {tokens : Tokens} {first last : Token} (begins : tokens.head? = some first)
      (ends : tokens.getLast? = some last)
      (madeUp : first.span = .callSite ∨ last.span = .callSite) :
      Located site (some tokens) first.span
  | nothing : Located site (some []) .callSite

theorem Tokens.extent_eq {tokens : Tokens} {first last : Token}
    (begins : tokens.head? = some first) (ends : tokens.getLast? = some last) :
    tokens.extent = first.span.through last.span := by
  cases tokens with
  | nil => cases begins
  | cons token rest =>
      cases begins
      rw [List.getLast?_eq_some_getLast (List.cons_ne_nil first rest)] at ends
      rw [Tokens.extent, Option.some.inj ends]

/-- The span that a failure at this place points at. -/
def pointed (site : Span) (place : Option Tokens) : Span := (place.map Tokens.extent).getD site

theorem located_iff {site : Span} {place : Option Tokens} {span : Span} :
    Located site place span ↔ span = pointed site place := by
  constructor
  · intro located
    cases located with
    | invocation => rfl
    | stretch begins ends written writtenLast =>
        rw [pointed, Option.map_some, Option.getD_some, Tokens.extent_eq begins ends, Span.through,
          if_neg (not_or.mpr ⟨written, writtenLast⟩)]
    | start begins ends madeUp =>
        rw [pointed, Option.map_some, Option.getD_some, Tokens.extent_eq begins ends, Span.through,
          if_pos madeUp]
    | nothing => rfl
  · rintro rfl
    match place with
    | none => exact .invocation
    | some [] => exact .nothing
    | some (first :: rest) =>
        have ends := List.getLast?_eq_some_getLast (List.cons_ne_nil first rest)
        rw [pointed, Option.map_some, Option.getD_some, Tokens.extent_eq rfl ends, Span.through]
        split
        · rename_i madeUp
          exact .start rfl ends madeUp
        · rename_i written
          exact .stretch rfl ends (not_or.mp written).1 (not_or.mp written).2

namespace Unwrap

/-! ### Single checks -/

theorem bindingName_eq_error_iff {value : Expr} {failure : Failure} :
    bindingName value = .error failure ↔
      (¬ ∃ name, Names value name) ∧ failure = .misuse .notAName value.revealed.span := by
  have verdict : (∃ name, bindingName value = .ok name) ∨
      bindingName value = .error (.misuse .notAName value.revealed.span) := by
    fun_induction Expr.revealed value with
    | case1 inner span ih => simpa [bindingName] using ih
    | case2 attributes inner span ih => simpa [bindingName] using ih
    | case3 expr notHidden notAttributed =>
        unfold bindingName
        split
        · exact absurd rfl (notHidden _ _)
        · exact absurd rfl (notAttributed _ _ _)
        · split
          · exact .inl ⟨_, rfl⟩
          · exact .inr rfl
        · exact .inr rfl
  simp only [← bindingName_eq_ok_iff]
  obtain ⟨name, found⟩ | refused := verdict
  · simp [found]
  · simp [refused, eq_comm]

/-- The code is no body: a closure with parameters, or neither a closure nor a block without a
label. -/
inductive Body.Malformed (code : Expr) : Misuse → Tokens → Prop where
  | parameters {head opening parameters closing output : Tokens} {inner : Expr}
      (form : code.bare = .closure head opening parameters closing output inner)
      (some : parameters ≠ []) : Malformed code .bodyParameters parameters
  | neither
      (notClosure : ∀ head opening parameters closing output inner,
        code.bare ≠ .closure head opening parameters closing output inner)
      (notBlock : ∀ attributes statements span,
        code.bare ≠ .block [] attributes statements span) :
      Malformed code .wrongBody code.tokens

theorem Body.Malformed.unique {code : Expr} {reason other : Misuse} {place elsewhere : Tokens}
    (first : Malformed code reason place) (second : Malformed code other elsewhere) :
    reason = other ∧ place = elsewhere := by
  cases first with
  | parameters form some =>
      cases second with
      | parameters form' some' =>
          obtain ⟨-, -, same, -⟩ := Expr.closure.inj (form.symm.trans form')
          exact ⟨rfl, same⟩
      | neither notClosure => exact absurd form (notClosure _ _ _ _ _ _)
  | neither notClosure notBlock =>
      cases second with
      | parameters form => exact absurd form (notClosure _ _ _ _ _ _)
      | neither => exact ⟨rfl, rfl⟩

theorem Body.Malformed.not_written {code : Expr} {reason : Misuse} {place : Tokens}
    (malformed : Malformed code reason place) (body : Body) : ¬ body.Written code := by
  intro written
  cases written with
  | closure form =>
      cases malformed with
      | parameters form' some =>
          obtain ⟨-, -, same, -⟩ := Expr.closure.inj (form.symm.trans form')
          exact some same.symm
      | neither notClosure => exact notClosure _ _ _ _ _ _ form
  | block form =>
      cases malformed with
      | parameters form' => exact nomatch form.symm.trans form'
      | neither _ notBlock => exact notBlock _ _ _ form

theorem malformed_of_ofExpr {expr : Expr} {failure : Failure}
    (refused : Body.ofExpr expr = .error failure) :
    ∃ reason place, Body.Malformed expr.revealed reason place ∧
      failure = .misuse reason place.extent := by
  fun_induction Body.ofExpr expr with
  | case1 inner span ih => exact ih refused
  | case2 attributes inner span ih => exact ih refused
  | case3 => cases refused
  | case5 => cases refused
  | case7 => cases refused
  | case8 => cases refused
  | case4 head opening parameters closing output inner full =>
      cases refused
      exact ⟨_, _, .parameters rfl (mt List.isEmpty_iff.mpr full), rfl⟩
  | case6 attributes head opening parameters closing output inner full =>
      cases refused
      exact ⟨_, _, .parameters rfl (mt List.isEmpty_iff.mpr full), rfl⟩
  | case9 expr notHidden notGroup notClosure notAttributedClosure notBlock notAttributedBlock =>
      cases refused
      refine ⟨.wrongBody, expr.tokens, ?_, rfl⟩
      rw [Expr.revealed]
      · -- The code is bare or has attributes, and both forms were refused before.
        obtain whole | ⟨attributes, whole⟩ := expr.eq_or_eq_attributed
        · refine .neither ?_ ?_
          · intro _ _ _ _ _ _ form
            exact notClosure _ _ _ _ _ _ (whole.trans form)
          · intro _ _ _ form
            exact notBlock _ _ _ (whole.trans form)
        · refine .neither ?_ ?_
          · intro _ _ _ _ _ _ form
            exact notAttributedClosure _ _ _ _ _ _ _ (form ▸ whole)
          · intro _ _ _ form
            exact notAttributedBlock _ _ _ _ (form ▸ whole)
      · exact notHidden
      · exact notGroup

theorem ofExpr_eq_error_iff {expr : Expr} {failure : Failure} :
    Body.ofExpr expr = .error failure ↔
      ∃ reason place, Body.Malformed expr.revealed reason place ∧
        failure = .misuse reason place.extent := by
  refine ⟨malformed_of_ofExpr, ?_⟩
  rintro ⟨reason, place, malformed, rfl⟩
  cases found : Body.ofExpr expr with
  | ok body => exact absurd (ofExpr_eq_ok_iff.mp found) (malformed.not_written body)
  | error failure =>
      obtain ⟨other, elsewhere, malformed', rfl⟩ := malformed_of_ofExpr found
      obtain ⟨rfl, rfl⟩ := malformed.unique malformed'
      rfl

/-- The guards fail at the leftmost value that is no name. -/
theorem guards_eq_error_iff {module : Path} {location : Location} {values : List Expr}
    {failure : Failure} :
    guards module location values = .error failure ↔
      ∃ before value after, values = before ++ value :: after ∧
        (∀ other ∈ before, ∃ name, Names other name) ∧ (¬ ∃ name, Names value name) ∧
        failure = .misuse .notAName value.revealed.span := by
  induction values with
  | nil => simp [guards]
  | cons value rest ih =>
      rw [guards]
      simp only [Except.bind_eq_error_iff, bindingName_eq_error_iff, bindingName_eq_ok_iff, ih]
      constructor
      · rintro (⟨unnamed, rfl⟩ |
          ⟨name, named, ⟨before, bad, after, rfl, all, unnamed, rfl⟩ | ⟨_, _, done⟩⟩)
        · exact ⟨[], value, rest, rfl, List.forall_mem_nil _, unnamed, rfl⟩
        · exact ⟨value :: before, bad, after, rfl,
            List.forall_mem_cons.mpr ⟨⟨name, named⟩, all⟩, unnamed, rfl⟩
        · cases done
      · rintro ⟨before, bad, after, cut, all, unnamed, rfl⟩
        cases before with
        | nil =>
            obtain ⟨rfl, rfl⟩ := List.cons.inj cut
            exact .inl ⟨unnamed, rfl⟩
        | cons first before =>
            obtain ⟨rfl, rfl⟩ := List.cons.inj cut
            obtain ⟨⟨name, named⟩, all⟩ := List.forall_mem_cons.mp all
            exact .inr ⟨name, named, .inl ⟨before, bad, after, rfl, all, unnamed, rfl⟩⟩

/-! ### All checks in order -/

/-- Why an invocation has no body, and the code that is to blame; where no body is given it is no
code. Whether the one body argument is well formed matters only if it is the only body. -/
inductive Bodiless (invocation : Invocation) : Misuse → Option Tokens → Prop where
  | repeated {first second : Argument} {more : List Argument}
      (labelled : invocation.arguments.filter isBody = first :: second :: more) :
      Bodiless invocation .repeatedBody (some second.tokens)
  | twice {argument : Argument} {trailing : Trailing}
      (labelled : invocation.arguments.filter isBody = [argument])
      (behind : invocation.trailing = some trailing) :
      Bodiless invocation .twoBodies (some argument.tokens)
  | missing (labelled : invocation.arguments.filter isBody = [])
      (behind : invocation.trailing = none) : Bodiless invocation .noBody none
  | malformed {argument : Argument} {reason : Misuse} {place : Tokens}
      (labelled : invocation.arguments.filter isBody = [argument])
      (behind : invocation.trailing = none)
      (malformed : Body.Malformed argument.expr.revealed reason place) :
      Bodiless invocation reason (some place)

theorem body_eq_error_iff {site : Span} {invocation : Invocation} {failure : Failure} :
    Unwrap.body site invocation = .error failure ↔
      ∃ reason place, Bodiless invocation reason place ∧
        failure = .misuse reason (pointed site place) := by
  constructor
  · intro refused
    unfold Unwrap.body bodyArgument? at refused
    match labelled : invocation.arguments.filter isBody, behind : invocation.trailing with
    | [], none =>
        rw [labelled, behind] at refused
        cases refused
        exact ⟨_, _, .missing labelled behind, rfl⟩
    | [], some trailing =>
        rw [labelled, behind] at refused
        cases refused
    | [argument], none =>
        rw [labelled, behind] at refused
        obtain ⟨reason, place, malformed, rfl⟩ := ofExpr_eq_error_iff.mp refused
        exact ⟨_, _, .malformed labelled behind malformed, rfl⟩
    | [argument], some trailing =>
        rw [labelled, behind] at refused
        cases refused
        exact ⟨_, _, .twice labelled behind, rfl⟩
    | first :: second :: more, trailing =>
        rw [labelled] at refused
        cases refused
        exact ⟨_, _, .repeated labelled, rfl⟩
  · rintro ⟨reason, place, bodiless, rfl⟩
    unfold Unwrap.body bodyArgument?
    cases bodiless with
    | repeated labelled => rw [labelled]; rfl
    | twice labelled behind => rw [labelled, behind]; rfl
    | missing labelled behind => rw [labelled, behind]; rfl
    | malformed labelled behind malformed =>
        rw [labelled, behind]
        exact ofExpr_eq_error_iff.mpr ⟨_, _, malformed, rfl⟩

/-- The first check that an invocation fails, and the code that it fails at: it has no body, or it
has one and some value is no name, in which case the leftmost such value is to blame. -/
inductive Refused (invocation : Invocation) : Misuse → Option Tokens → Prop where
  | body {reason : Misuse} {place : Option Tokens} (bodiless : Bodiless invocation reason place) :
      Refused invocation reason place
  | value {body : Body} {before after : List Expr} {value : Expr}
      (single : SingleBody invocation) (has : HasBody invocation body)
      (cut : values invocation.arguments = before ++ value :: after)
      (named : ∀ other ∈ before, ∃ name, Names other name)
      (unnamed : ¬ ∃ name, Names value name) :
      Refused invocation .notAName (some value.revealed.tokens)

theorem parts_eq_error_iff {module : Path} {site : Span} {location : Location}
    {invocation : Invocation} {failure : Failure} :
    parts module site location invocation = .error failure ↔
      ∃ reason place, Refused invocation reason place ∧
        failure = .misuse reason (pointed site place) := by
  unfold parts
  simp only [Except.bind_eq_error_iff, body_eq_error_iff, body_eq_ok_iff, guards_eq_error_iff]
  constructor
  · rintro (⟨reason, place, bodiless, rfl⟩ |
      ⟨body, ⟨single, has⟩, ⟨before, value, after, cut, named, unnamed, rfl⟩ | ⟨_, _, done⟩⟩)
    · exact ⟨reason, place, .body bodiless, rfl⟩
    · exact ⟨_, _, .value single has cut named unnamed, rfl⟩
    · cases done
  · rintro ⟨reason, place, refused, rfl⟩
    cases refused with
    | body bodiless => exact .inl ⟨reason, place, bodiless, rfl⟩
    | value single has cut named unnamed =>
        exact .inr ⟨_, ⟨single, has⟩, .inl ⟨_, _, _, cut, named, unnamed, rfl⟩⟩

/-! ### The code that is to blame -/

theorem Body.Malformed.present {code : Expr} {reason : Misuse} {place : Tokens}
    (malformed : Malformed code reason place) (shown : code.Shown) : place ≠ [] := by
  cases malformed with
  | parameters _ some => exact some
  | neither => exact (shown.present_print .alone).ne_nil

theorem Bodiless.present {invocation : Invocation} {reason : Misuse} {place : Option Tokens}
    (bodiless : Bodiless invocation reason place) (shown : invocation.Shown) :
    place ≠ some [] := by
  have labelled (front : List Argument) {argument : Argument} {rest : List Argument}
      (among : invocation.arguments.filter isBody = front ++ argument :: rest) :
      argument.expr.Shown := by
    have member : argument ∈ invocation.arguments.filter isBody := by simp [among]
    exact shown.arguments argument (List.mem_of_mem_filter member)
  have printed {argument : Argument} (own : argument.expr.Shown) :
      some argument.tokens ≠ some [] := by
    have present : Tokens.Present argument.expr.tokens := own.present_print .alone
    have whole : Tokens.Present argument.tokens := by unfold Argument.tokens; infer_instance
    exact fun none => whole.ne_nil (Option.some.inj none)
  cases bodiless with
  | repeated among => exact printed (labelled [_] among)
  | twice among => exact printed (labelled [] among)
  | missing => nofun
  | malformed among _ malformed =>
      have own := labelled [] among
      exact fun none => malformed.present own.revealed (Option.some.inj none)

/-- What an invocation that was read is refused for stands somewhere in it. -/
theorem Refused.present {invocation : Invocation} {reason : Misuse} {place : Option Tokens}
    (refused : Refused invocation reason place) (shown : invocation.Shown) :
    place ≠ some [] := by
  cases refused with
  | body bodiless => exact bodiless.present shown
  | @value body before after value single has cut =>
      have among : value ∈ values invocation.arguments := by simp [cut]
      obtain ⟨argument, member, rfl⟩ := List.mem_map.mp among
      have own := (shown.arguments argument (List.mem_of_mem_filter member)).revealed
      exact fun none => (own.present_print .alone).ne_nil (Option.some.inj none)

/-- What tokens come to as the arguments of an unwrapping is what their invocation comes to. -/
theorem expandTokens_result {tokens : Tokens} {invocation : Invocation}
    (read : Invocation.ofTokens tokens = .ok invocation) (options : Options) (context : Context) :
    ((Builtin.unwrap.expandTokens options tokens).runIn context).1 =
      ((expand options invocation).runIn context).1.map Expansion.statements := by
  rw [Builtin.runIn_expandTokens_of_read read, runIn_expand]
  rfl

/-- An invocation is refused exactly for the first check that it fails, at the code that fails it,
and nothing is emitted for it: in its place stands one compile error. -/
theorem first_fault_decides (options : Options) (invocation : Invocation) (context : Context)
    (readable : options.strategy = .closure →
      ∀ body, HasBody invocation body → body.source.ReadsBack) :
    (∀ failure, ((expand options invocation).runIn context).1 = .error failure ↔
      ∃ reason place span, Refused invocation reason place ∧ Located context.site place span ∧
        failure = .misuse reason span) ∧
    ∀ tokens, Invocation.ofTokens tokens = .ok invocation →
      ∀ reason place, Refused invocation reason place →
        place ≠ some [] ∧
        (context.pending = [] →
          (Builtin.unwrap.render options tokens context).1 =
            Role.declaration.errorCode reason.message) := by
  have decided (failure : Failure) :
      ((expand options invocation).runIn context).1 = .error failure ↔
        ∃ reason place, Refused invocation reason place ∧
          failure = .misuse reason (pointed context.site place) := by
    rw [expand_result readable, Except.map_eq_error_iff, parts_eq_error_iff]
  refine ⟨?_, ?_⟩
  · intro failure
    rw [decided]
    constructor
    · rintro ⟨reason, place, refused, same⟩
      exact ⟨reason, place, _, refused, located_iff.mpr rfl, same⟩
    · rintro ⟨reason, place, span, refused, located, same⟩
      exact ⟨reason, place, refused, located_iff.mp located ▸ same⟩
  · intro tokens read reason place refused
    refine ⟨refused.present (Invocation.shown_of_read read), ?_⟩
    intro idle
    have failed := (decided _).mpr ⟨reason, place, refused, rfl⟩
    have failedRead : ((Builtin.unwrap.expandTokens options tokens).runIn context).1 =
        .error (.misuse reason (pointed context.site place)) := by
      rw [expandTokens_result read, failed]
      rfl
    have role : Builtin.unwrap.role = .declaration := rfl
    rw [Builtin.render_of_failure idle options tokens .unwrap failedRead, role, Failure.message]

/-- A stretch of the first line. -/
def inFirstLine (start stop : Nat) : Span := ⟨⟨1, start⟩, ⟨1, stop⟩⟩

/-- Two values that are no names, in front of a body: `1, 2, body: || done`. -/
def twoNumbers : Invocation where
  items :=
    [(⟨none, .literal (.literal "1" (inFirstLine 0 1))⟩, Tokens.symbol ","),
      (⟨none, .literal (.literal "2" (inFirstLine 3 4))⟩, Tokens.symbol ","),
      (⟨some ⟨.made "body", Tokens.symbol ":"⟩, naming "done"⟩, [])]
  trailing := none

/-- The first of them is to blame. -/
theorem first_fault_decides_twoNumbers :
    (∀ body, HasBody twoNumbers body → body.source.ReadsBack) ∧
    ((expand ⟨.closure, .absolute ["freestanding"]⟩ twoNumbers).runIn {}).1 =
      .error (.misuse .notAName (inFirstLine 0 1)) := by
  have readable : ∀ body, HasBody twoNumbers body → body.source.ReadsBack := by
    intro body has
    rw [has.eq_of_found .callSite rfl]
    exact readsBack_naming_done
  obtain ⟨single, has⟩ := body_eq_ok_iff.mp (rfl : body .callSite twoNumbers = .ok _)
  have unnamed : ¬ ∃ name, Names (.literal (.literal "1" (inFirstLine 0 1))) name :=
    fun named => nomatch named.choose_spec
  have refused : Refused twoNumbers .notAName (some [.literal "1" (inFirstLine 0 1)]) :=
    .value single has (rfl : values twoNumbers.arguments = [] ++ _) (List.forall_mem_nil _) unnamed
  have located : Located .callSite (some [.literal "1" (inFirstLine 0 1)]) (inFirstLine 0 1) :=
    located_iff.mpr rfl
  refine ⟨readable, ?_⟩
  exact ((first_fault_decides ⟨.closure, .absolute ["freestanding"]⟩ twoNumbers {}
    fun _ => readable).1 _).mpr ⟨_, _, _, refused, located, rfl⟩

/-- The tokens of `break #[a] 'b: loop {} => {}`. -/
def labelledBreak : Tokens :=
  [.ident "break" (inFirstLine 0 5), .punct '#' .alone (inFirstLine 6 7),
    .group .bracket [.ident "a" (inFirstLine 8 9)] (inFirstLine 7 10),
    .punct '\'' .joint (inFirstLine 11 12), .ident "b" (inFirstLine 12 13),
    .punct ':' .alone (inFirstLine 13 14), .ident "loop" (inFirstLine 15 19),
    .group .brace [] (inFirstLine 20 22), .punct '=' .joint (inFirstLine 23 24),
    .punct '>' .alone (inFirstLine 24 25), .group .brace [] (inFirstLine 26 28)]

set_option maxRecDepth 4000 in
/-- The value is read from the first eight tokens. It prints its loop in parentheses, which are made
up, so that the failure points at its first token only. -/
theorem madeUp_parentheses_cut_span :
    Tokens.ofText? "break #[a] 'b: loop \x7b\x7d => \x7b\x7d" = some labelledBreak ∧
    ∃ value trailing,
      Invocation.ofTokens labelledBreak = .ok ⟨[(⟨none, value⟩, [])], some trailing⟩ ∧
      Reads ((Grammar.ofInput labelledBreak).expr true) labelledBreak value
        (labelledBreak.take 8) (labelledBreak.drop 8) ∧
      Tokens.extent (labelledBreak.take 8) = inFirstLine 0 22 ∧
      ((expand {} ⟨[(⟨none, value⟩, [])], some trailing⟩).runIn {}).1 =
        .error (.misuse .notAName (inFirstLine 0 5)) :=
  ⟨rfl, _, _, rfl, ⟨rfl, rfl⟩, rfl, rfl⟩

end Unwrap

end MacroExpansion
