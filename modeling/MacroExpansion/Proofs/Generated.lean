import MacroExpansion.Proofs.Reading.StepNames
import MacroExpansion.Proofs.Unwrap.GuardReading
import MacroExpansion.Proofs.Unwrap.Faults
import MacroExpansion.Proofs.UniqueNames

/-!
# Generated code can be read

Five pieces of code are put together from tokens: guards, the call of a body, the default space, the
call of the constructor, and the binding of a unique name. Each of them is read as the statement or
the expression that it is meant to be, whatever arguments went into it.

Two things are taken for granted about what was read before: that the body is read back when it is
printed (`Expr.ReadsBack`), and that a color space reads as some expression when it is printed
alone (`Expr.ReadsAs`). The call of the constructor has this expression for its first argument.
-/

namespace MacroExpansion

open TokenReader

/-! ### The call of a body -/

namespace Unwrap.Body

open Grammar

/-- The call of a body that reads back is read as one statement. -/
theorem ofTokens_callTokens {body : Body} (readable : body.source.ReadsBack) :
    Stmt.ofTokens body.callTokens = .ok body.called := by
  have call := call_eq_called readable
  unfold Body.call at call
  cases found : Stmt.ofTokens body.callTokens with
  | error error =>
      rw [found] at call
      cases call
  | ok statement =>
      rw [found] at call
      cases call
      rfl

end Unwrap.Body

/-! ### The binding of a unique name -/

namespace UniqueName

open Grammar

theorem binding_placeholder {name : String} (free : Identifier.isName name = true) (depth : Nat) :
    binding (ofDepth (depth + 5)) [] (.ofTokens (placeholder name).tokens) =
      .ok (placeholder name, .ofTokens []) := by
  let typed : Tokens := Tokens.symbol ":" ++ [.enclosed .parenthesis []] ++ Tokens.symbol "=" ++
    [.enclosed .parenthesis []] ++ Tokens.symbol ";"
  have head : keyword "let" (.ofTokens (placeholder name).tokens) =
      .ok ([.word "let"], .ofTokens (.word name :: typed)) := rfl
  have pattern : (ofDepth (depth + 5)).single (.ofTokens (.word name :: typed)) =
      .ok (.plain [.word name], .ofTokens typed) :=
    singleRule_of_name _ free _ rfl rfl _ _
  rw [binding, bind_of_ok head, bind_of_ok pattern]
  rfl

/-- The binding of a name is read as one statement, itself. -/
theorem ofTokens_placeholder {name : String} (free : Identifier.isName name = true) :
    Stmt.ofTokens (placeholder name).tokens = .ok (placeholder name) := by
  have chosen (g : Grammar) : statement g (.ofTokens (placeholder name).tokens) =
      binding g [] (.ofTokens (placeholder name).tokens) := rfl
  have read := binding_placeholder free (8 * Tokens.size (placeholder name).tokens + 3)
  rw [Stmt.ofTokens, TokenReader.run, ofInput, bind_of_ok ((chosen _).trans read)]
  rfl

/-- A name that begins with two underscores is no reserved word. -/
theorem isName_uniqueName (hint : String) (number : Nat) :
    Identifier.isName (Context.uniqueName hint number) = true := by
  have others : ∀ word ∈ Identifier.reserved, word.toList.take 2 ≠ ['_', '_'] := by decide
  have unreserved : Context.uniqueName hint number ∉ Identifier.reserved := by
    intro reserved
    refine others _ reserved ?_
    rw [Context.toList_uniqueName]
    rfl
  simpa [Identifier.isName] using unreserved

end UniqueName

/-! ### The call of a constructor -/

namespace Color

open Grammar

/-- A call of the constructor with the given space and further arguments. -/
def calling (module : Path) (space : Expr) (rest : List Element) : Expr :=
  .call (.path (Runtime.newColor module)) (.mk space (Tokens.symbol ",") :: rest) .callSite

/-- The literal of a channel. -/
def channel (value : Binary64) (place : Span) : Expr :=
  .literal (.literal (Channel.literal value) place)

theorem construct_eq (module : Path) (space : Option Expr) (rgb : Rgb) (place : Span) :
    construct module space rgb place =
      .callPath (Runtime.newColor module)
        [space.getD (.path (Runtime.defaultSpace module)), channel rgb.red place,
          channel rgb.green place, channel rgb.blue place] := rfl

/-- The call of a constructor is read as the call with the space that its space is read as. -/
theorem ofTokens_construct {module : Path} (plain : module.Plain) (rgb : Rgb) (place : Span)
    {space : Option Expr} {again : Expr}
    (reads : (space.getD (.path (Runtime.defaultSpace module))).ReadsAs again) :
    Expr.ofTokens (construct module space rgb place).tokens =
      .ok (construct module (some again) rgb place) := by
  have path : (Runtime.newColor module).Plain := plain.extend (by decide)
  have channels (value : Binary64) : (channel value place).ReadsAs (channel value place) :=
    Expr.readsAs_literal _ place
  rw [construct_eq, construct_eq]
  exact Expr.ofTokens_callPath path
    (.cons reads (.cons (channels _) (.cons (channels _) (.cons (channels _) .nil))))

/-- The call that a color is replaced by, with its first argument apart. -/
theorem exists_construct_of_verdict {module : Path} {site : Span} {invocation : Invocation}
    {rgb : Rgb} {call : Expr} (accepted : verdict module site invocation = .ok (rgb, call)) :
    ∃ explicit literal place, chooseArguments invocation.arguments = some (explicit, literal) ∧
      call = construct module explicit rgb place := by
  unfold verdict at accepted
  split at accepted
  · cases accepted
  · rename_i explicit literal chosen
    split at accepted
    · cases accepted
    · rename_i text place integer
      split at accepted
      · cases accepted
      · cases accepted
        exact ⟨explicit, literal, place, chosen, rfl⟩

end Color

namespace Builtin

/-- The expansion of a color is a call of the constructor. -/
theorem exists_construct_of_expand {options : Options} {invocation : Invocation}
    {context : Context} {call : Expr}
    (ran : ((color.expand options invocation).runIn context).1 = .ok (.expr call)) :
    ∃ explicit literal rgb place,
      Color.chooseArguments invocation.arguments = some (explicit, literal) ∧
        call = Color.construct options.module explicit rgb place := by
  rw [runIn_expand] at ran
  simp only [outcome, Color.outcome] at ran
  split at ran
  · cases ran
  · rename_i rgb found accepted
    cases ran
    obtain ⟨explicit, literal, place, chosen, same⟩ := Color.exists_construct_of_verdict accepted
    exact ⟨explicit, literal, rgb, place, chosen, same⟩

/-- No expansion fails because code that was put together cannot be read. -/
theorem expand_ne_unreadable {options : Options} {invocation : Invocation}
    (readable : options.strategy = .closure →
      ∀ body, Unwrap.HasBody invocation body → body.source.ReadsBack)
    (kind : Builtin) (context : Context) (error : SyntaxError) :
    ((kind.expand options invocation).runIn context).1 ≠ .error (.unreadable error) := by
  intro failed
  rw [runIn_expand] at failed
  cases kind with
  | color => cases failed
  | unwrap =>
      have ran := Unwrap.runIn_expand options invocation context
      have result : ((Unwrap.expand options invocation).runIn context).1 = _ :=
        Unwrap.expand_result readable
      rw [ran] at result
      simp only [outcome] at failed
      rw [Except.map_eq_error_iff, result, Except.map_eq_error_iff] at failed
      obtain ⟨reason, place, -, same⟩ := Unwrap.parts_eq_error_iff.mp failed
      cases same
  | uniqueName =>
      simp only [outcome, UniqueName.outcome] at failed
      split at failed
      · cases failed
      · cases failed

/-- Code that is put together is read as what it is meant to be, for every plain module path and
every invocation that was read: a guard as one `let` with an `else`, the call of a body as one
terminated expression, the default space as a path, the constructor as a call of whatever the first
argument reads as, and a unique name as one `let`. So no expansion fails because of it. -/
theorem generated_code_reads (options : Options) (plain : options.module.Plain) {tokens : Tokens}
    {invocation : Invocation} (read : Invocation.ofTokens tokens = .ok invocation) :
    (∀ location, ∀ value ∈ Unwrap.values invocation.arguments, ∀ name,
      Unwrap.bindingName value = .ok name →
      ∃ binding, Unwrap.guard options.module location value name = .binding binding ∧
        binding.otherwise ≠ [] ∧ Stmt.ofTokens binding.tokens = .ok (.binding binding)) ∧
    (∀ site body, Unwrap.body site invocation = .ok body → body.source.ReadsBack →
      Stmt.ofTokens body.callTokens =
        .ok (.expr (Grammar.enclosedCall body.calledTokens) Unwrap.semicolon)) ∧
    Expr.ofTokens (Runtime.defaultSpace options.module).tokens =
      .ok (.path (Runtime.defaultSpace options.module)) ∧
    (∀ context call, ((color.expand options invocation).runIn context).1 = .ok (.expr call) →
      ∃ explicit literal rest,
        Color.chooseArguments invocation.arguments = some (explicit, literal) ∧
        call = Color.calling options.module
          (explicit.getD (.path (Runtime.defaultSpace options.module))) rest ∧
        (explicit = none → Expr.ofTokens call.tokens = .ok call) ∧
        ∀ space again, explicit = some space → space.ReadsAs again →
          Expr.ofTokens call.tokens = .ok (Color.calling options.module again rest)) ∧
    (∀ number, ∃ binding,
      UniqueName.placeholder (Context.uniqueName UniqueName.hint number) = .binding binding ∧
        Stmt.ofTokens binding.tokens = .ok (.binding binding)) ∧
    ∀ (kind : Builtin) (context : Context) (error : SyntaxError),
      (options.strategy = .closure →
        ∀ body, Unwrap.HasBody invocation body → body.source.ReadsBack) →
      ((kind.expand options invocation).runIn context).1 ≠ .error (.unreadable error) := by
  refine ⟨?_, ?_, ?_, ?_, ?_, ?_⟩
  · intro location value among name found
    obtain ⟨argument, member, rfl⟩ := List.mem_map.mp among
    have step := Invocation.isStep_of_read read (List.mem_of_mem_filter member)
      (Unwrap.bindingName_eq_ok_iff.mp found)
    exact ⟨_, rfl, List.cons_ne_nil _ _, Unwrap.ofTokens_guard plain location name _ step⟩
  · intro site body _ readable
    exact Unwrap.Body.ofTokens_callTokens readable
  · exact Expr.ofTokens_of_plain (plain.extend (by decide))
  · intro context call ran
    obtain ⟨explicit, literal, rgb, place, chosen, rfl⟩ := exists_construct_of_expand ran
    refine ⟨explicit, literal, _, chosen, rfl, ?_, ?_⟩
    · rintro rfl
      exact Color.ofTokens_construct plain rgb place
        (Expr.readsAs_of_plain (plain.extend (by decide)))
    · rintro space again rfl reads
      exact Color.ofTokens_construct plain rgb place reads
  · intro number
    exact ⟨_, rfl, UniqueName.ofTokens_placeholder (UniqueName.isName_uniqueName _ _)⟩
  · intro kind context error readable
    exact expand_ne_unreadable readable kind context error

/-- The word `self` with a literal and a block behind it: `self, 0x102030 => { done }`. As a value
it is a name, and as a color space it is an expression. -/
def behindSelf : Tokens :=
  [.word "self"] ++ Tokens.symbol "," ++ [.literal "0x102030" .callSite] ++ Tokens.symbol "=>" ++
    [.enclosed .brace [.word "done"]]

/-- The invocation that these tokens spell. -/
def spaceAndValue : Invocation where
  items :=
    [(⟨none, .path (.ofName (.made "self"))⟩, Tokens.symbol ","),
      (⟨none, .literal (.literal "0x102030" .callSite)⟩, [])]
  trailing :=
    some ⟨Tokens.symbol "=>", [.expr (.path (.ofName (.made "done"))) []], .callSite⟩

theorem generated_code_reads_behindSelf :
    (Path.absolute ["freestanding"]).Plain ∧
    Invocation.ofTokens behindSelf = .ok spaceAndValue ∧
    ∃ self call body, self ∈ Unwrap.values spaceAndValue.arguments ∧
      Unwrap.bindingName self = .ok (.made "self") ∧
      (∃ binding, Stmt.ofTokens (Unwrap.guard (.absolute ["freestanding"]) (.fixed "a.rs" 1) self
        (.made "self")).tokens = .ok (.binding binding)) ∧
      Unwrap.body .callSite spaceAndValue = .ok body ∧ body.source.ReadsBack ∧
      (∃ terminated, Stmt.ofTokens body.callTokens = .ok (.expr terminated Unwrap.semicolon)) ∧
      self.ReadsAs self ∧
      ((color.expand ⟨.closure, .absolute ["freestanding"]⟩ spaceAndValue).runIn {}).1 =
        .ok (.expr call) ∧
      Expr.ofTokens call.tokens = .ok call := by
  have plain : (Path.absolute ["freestanding"]).Plain := Path.plain_absolute (by decide)
  have read : Invocation.ofTokens behindSelf = .ok spaceAndValue := rfl
  have readable : (Unwrap.Body.source
      (.block ⟨[.expr (.path (.ofName (.made "done"))) []], .callSite⟩)).ReadsBack := by
    intro depth deep group close
    obtain ⟨more, rfl⟩ := Nat.exists_eq_add_of_le' deep
    exact ⟨_, rfl, rfl⟩
  have reads : Expr.ReadsAs (.path (.ofName (.made "self"))) (.path (.ofName (.made "self"))) :=
    Expr.readsAs_of_plain (Path.plain_ofIdent (by decide))
  obtain ⟨guards, calls, -, colors, -⟩ :=
    generated_code_reads ⟨.closure, .absolute ["freestanding"]⟩ plain read
  obtain ⟨binding, same, -, again⟩ := guards (.fixed "a.rs" 1) _ (List.mem_cons_self ..)
    (.made "self") rfl
  have ran : ∃ call, ((color.expand ⟨.closure, .absolute ["freestanding"]⟩
      spaceAndValue).runIn {}).1 = .ok (.expr call) := ⟨_, rfl⟩
  obtain ⟨call, ran⟩ := ran
  obtain ⟨explicit, literal, rest, chosen, rfl, -, spaces⟩ := colors {} _ ran
  cases chosen
  refine ⟨plain, read, _, _, _, List.mem_cons_self .., rfl, ⟨binding, ?_⟩, rfl, readable,
    ⟨_, calls .callSite _ rfl readable⟩, reads, ran, spaces _ _ rfl reads⟩
  rw [same]
  exact again

end Builtin

end MacroExpansion
