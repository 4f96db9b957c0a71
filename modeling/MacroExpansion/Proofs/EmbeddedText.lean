import MacroExpansion.Proofs.Reading.PlainPath
import MacroExpansion.Proofs.ReportedPlace
import MacroExpansion.Proofs.Text.ReadBack
import MacroExpansion.Proofs.Unwrap.Guard

/-!
# Embedded texts stay what they are

Two kinds of generated code have texts from outside in them: the report of a guard, with the name of
the value and the place of the call, and a compile error, with its message. Each text is put into a
string literal, and the line into a number. Whatever the text is, its literal is one token that
stands for this text, so the code around it is read as it was meant and nothing is added to it.

`Tokens.constants` is what the literals of some tokens stand for, in their order and at any depth.
`Tokens.Keeps` says that printed tokens are read back with the constants that were put into them,
in front of whatever code follows. Since reading is a function, what is printed for different texts
is different.
-/

namespace MacroExpansion

open Lexer (IsWord IsMark Stops)

/-! ### What literals stand for -/

/-- What a literal of generated code stands for. -/
inductive Constant where
  /-- The text of a string literal. -/
  | text (text : String)
  /-- The value of an integer literal without a suffix. -/
  | number (n : Nat)
deriving DecidableEq, Repr

/-- What a literal stands for, by the rules of the language for quoted texts and for digits. -/
def Constant.ofLiteral? (literal : String) : Option Constant :=
  match Quoted.unquote? literal with
  | some content => some (.text content)
  | none => (Literal.value? literal.toList).map .number

mutual

/-- What the literals of a token stand for. -/
def Token.constants : Token → List Constant
  | .literal text _ => (Constant.ofLiteral? text).toList
  | .group _ inner _ => Tokens.constants inner
  | _ => []

/-- What the literals of tokens stand for. -/
def Tokens.constants : Tokens → List Constant
  | [] => []
  | token :: rest => token.constants ++ Tokens.constants rest

end

namespace Tokens

@[simp] theorem constants_append (front back : Tokens) :
    constants (front ++ back) = constants front ++ constants back := by
  induction front with
  | nil => simp [constants]
  | cons token front ih => simp [constants, ih]

@[simp] theorem constants_symbol (text : String) : constants (symbol text) = [] := by
  rw [symbol]
  induction text.toList with
  | nil => rfl
  | cons c chars ih =>
      cases chars with
      | nil => rfl
      | cons d chars => simpa [symbol.go, constants, Token.constants] using ih

@[simp] theorem constants_ident (text : String) (span : Span) (rest : Tokens) :
    constants (.ident text span :: rest) = constants rest := rfl

@[simp] theorem constants_word (text : String) (rest : Tokens) :
    constants (.word text :: rest) = constants rest := rfl

@[simp] theorem constants_enclosed (delimiter : Delimiter) (inner rest : Tokens) :
    constants (.enclosed delimiter inner :: rest) = constants inner ++ constants rest := rfl

@[simp] theorem constants_nil : constants [] = [] := rfl

end Tokens

mutual

/-- Constants have no place. -/
theorem Token.constants_unplaced (token : Token) :
    token.unplaced.constants = token.constants := by
  cases token with
  | ident | punct | literal => rfl
  | group delimiter inner span =>
      rw [Token.unplaced, Token.constants, Token.constants]
      exact Tokens.constants_unplaced inner

theorem Tokens.constants_unplaced (tokens : Tokens) :
    tokens.unplaced.constants = tokens.constants := by
  cases tokens with
  | nil => rfl
  | cons token rest =>
      rw [Tokens.unplaced, Tokens.constants, Tokens.constants, Token.constants_unplaced token,
        Tokens.constants_unplaced rest]

end

namespace Constant

theorem ofLiteral?_quote (text : String) :
    ofLiteral? (Quoted.quote .literal text) = some (.text text) := by
  rw [ofLiteral?, Quoted.unquote?_quote]

theorem digitsValue_concat {digits : List Char} {n d : Nat}
    (value : Literal.value?.digitsValue 10 digits = some n) (small : d < 10) :
    Literal.value?.digitsValue 10 (digits ++ [d.digitChar]) = some (10 * n + d) := by
  obtain ⟨-, gap, digit⟩ := Channel.digitChar_spec small
  rw [Literal.value?.digitsValue] at value ⊢
  rw [List.foldlM_append, value]
  simp [gap, digit, small]

/-- The digits of a number have its value. -/
theorem digitsValue_toDigits (n : Nat) :
    Literal.value?.digitsValue 10 (Nat.toDigits 10 n) = some n := by
  induction n using Nat.strongRecOn with
  | ind n ih =>
      by_cases small : n < 10
      · rw [Nat.toDigits_of_lt_base small]
        have only : Literal.value?.digitsValue 10 ([] ++ [n.digitChar]) = some (10 * 0 + n) :=
          digitsValue_concat rfl small
        simpa using only
      · rw [Nat.toDigits_of_base_le (by decide) (Nat.le_of_not_lt small),
          digitsValue_concat (ih (n / 10) (by omega)) (Nat.mod_lt n (by decide)), Nat.div_add_mod]

/-- A number marks no base other than ten: no letter is among its digits. -/
theorem value?_toDigits (n : Nat) : Literal.value? (Nat.toDigits 10 n) = some n := by
  have digits : ∀ c ∈ Nat.toDigits 10 n, c.isDigit = true := fun c member =>
    Nat.isDigit_of_mem_toDigits (by decide) (by decide) member
  have unmarked {c d : Char} {rest : List Char} (same : Nat.toDigits 10 n = c :: d :: rest) :
      d ≠ 'x' ∧ d ≠ 'o' ∧ d ≠ 'b' := by
    have table : ∀ d ∈ Lexer.decimals, d ≠ 'x' ∧ d ≠ 'o' ∧ d ≠ 'b' :=
      Lexer.forall_of_all (by decide)
    exact table d (Lexer.mem_decimals (digits d (by simp [same])))
  rw [Literal.value?, digitsValue_toDigits]
  · exact fun _ same => (unmarked same).1 rfl
  · exact fun _ same => (unmarked same).2.1 rfl
  · exact fun _ same => (unmarked same).2.2 rfl

theorem ofLiteral?_toDigits (n : Nat) :
    ofLiteral? (String.ofList (Nat.toDigits 10 n)) = some (.number n) := by
  have unquoted : Quoted.unquote? (String.ofList (Nat.toDigits 10 n)) = none := by
    rw [Quoted.unquote?, String.toList_ofList]
    split
    · rename_i quoted
      have digit := Nat.isDigit_of_mem_toDigits (c := '"') (b := 10) (n := n) (by decide)
        (by decide) (by simp [quoted])
      exact absurd digit (by decide)
    · rfl
  rw [ofLiteral?, unquoted, String.toList_ofList, value?_toDigits]
  rfl

end Constant

/-! ### Code that keeps its constants -/

namespace Tokens

/-- In front of whatever stops them, the printed tokens are read back, with these constants, and
what stands behind them is read as it is on its own. -/
def Keeps (tokens : Tokens) (constants : List Constant) : Prop :=
  ∀ (back : String) (others : Tokens), Stops back.toList → ofText? back = some others →
    ∃ read, ofText? (tokens.render ++ back) = some read ∧
      read.unplaced = tokens.unplaced ++ others.unplaced ∧
      read.constants = constants ++ others.constants

/-- Printed tokens keep the constants that are among them. -/
theorem Printable.keeps {tokens : Tokens} (printable : tokens.Printable)
    {constants : List Constant} (own : tokens.constants = constants) : tokens.Keeps constants := by
  intro back others stops whole
  obtain ⟨read, found, same⟩ := printable.ofText?_append stops whole
  refine ⟨read, found, same, ?_⟩
  rw [← constants_unplaced read, same, constants_append, constants_unplaced, constants_unplaced,
    own]

/-- Alone, the tokens are read back with their constants. -/
theorem Keeps.alone {tokens : Tokens} {constants : List Constant} (keeps : tokens.Keeps constants) :
    ∃ read, ofText? tokens.render = some read ∧ read.unplaced = tokens.unplaced ∧
      read.constants = constants := by
  obtain ⟨read, found, same, own⟩ := keeps "" [] .nil rfl
  rw [String.append_empty] at found
  rw [unplaced, List.append_nil] at same
  rw [Tokens.constants, List.append_nil] at own
  exact ⟨read, found, same, own⟩

/-- Tokens that keep their constants are printed alike only if they are alike. -/
theorem Keeps.unique {tokens more : Tokens} {constants others : List Constant}
    (keeps : tokens.Keeps constants) (also : more.Keeps others)
    (printed : tokens.render = more.render) :
    tokens.unplaced = more.unplaced ∧ constants = others := by
  obtain ⟨read, found, same, own⟩ := keeps.alone
  obtain ⟨again, refound, alike, theirs⟩ := also.alone
  rw [printed, refound, Option.some.injEq] at found
  subst found
  exact ⟨same.symm.trans alike, own.symm.trans theirs⟩

/-- What stands behind tokens that end loose does not hide how they are printed. -/
theorem render_cancel {front other back : Tokens} (loose : front.EndsLoose)
    (also : other.EndsLoose) (printed : render (front ++ back) = render (other ++ back)) :
    front.render = other.render := by
  by_cases none : back = []
  · subst none
    rwa [List.append_nil, List.append_nil] at printed
  · rw [render_append loose none, render_append also none, String.append_assoc,
      String.append_assoc] at printed
    exact String.append_left_inj _ |>.mp printed

end Tokens

/-! ### Single literals -/

namespace Tokens

/-- Only a literal is a literal when places are forgotten. -/
theorem eq_literal_of_unplaced {tokens : Tokens} {text : String}
    (same : tokens.unplaced = [.literal text .callSite]) :
    ∃ place, tokens = [.literal text place] := by
  rw [unplaced_eq_map] at same
  obtain ⟨token, rfl, alike⟩ := List.map_eq_singleton_iff.mp same
  cases token with
  | literal own place =>
      rw [Token.unplaced] at alike
      cases alike
      exact ⟨place, rfl⟩
  | ident | punct | group => cases alike

/-- One literal is printed, and one literal is read. -/
theorem Printable.ofText?_literal {text : String} {span : Span}
    (printable : Printable [.literal text span]) :
    ∃ place, ofText? text = some [.literal text place] := by
  obtain ⟨read, found, same⟩ := printable.ofText?_render
  obtain ⟨place, rfl⟩ := eq_literal_of_unplaced same
  rw [render_singleton, Token.render] at found
  exact ⟨place, found⟩

@[simp] theorem constants_string (text : String) (rest : Tokens) :
    constants (.string text :: rest) = .text text :: constants rest := by
  rw [Token.string, constants, Token.constants, Constant.ofLiteral?_quote]
  rfl

@[simp] theorem constants_number (n : Nat) (rest : Tokens) :
    constants (.number n :: rest) = .number n :: constants rest := by
  rw [Token.number, constants, Token.constants, Constant.ofLiteral?_toDigits]
  rfl

end Tokens

/-- The closing quote of a text is its own, whatever follows the literal. -/
theorem Literal.string?_quote (text : String) (back : List Char) :
    Literal.string? ((Quoted.quote .literal text).toList ++ back) =
      some (Literal.afterSuffix back) := by
  rw [Quoted.toList_quote]
  simp [Literal.string?, Literal.cooked?, Quoted.afterQuote?_encode]

/-! ### Generated code can be printed -/

namespace Tokens

theorem Printable.single {text : String} (word : IsWord text.toList) (span : Span) :
    Printable [.ident text span] := .word word span .nil

theorem Printable.enclosed {delimiter : Delimiter} (visible : delimiter ≠ .invisible)
    {inner : Tokens} (inside : inner.Printable) : Printable [.enclosed delimiter inner] :=
  .group visible inside .callSite .nil

/-- An operator can be printed if all of its characters can. -/
theorem Printable.symbol {text : String} (all : text.toList.all (fun c => IsMark c) = true) :
    (Tokens.symbol text).Printable := by
  have marks : ∀ c ∈ text.toList, IsMark c := Lexer.forall_of_all all
  rw [Tokens.symbol]
  clear all
  generalize text.toList = chars at marks
  induction chars with
  | nil => exact .nil
  | cons c chars ih =>
      obtain ⟨mark, others⟩ := List.forall_mem_cons.mp marks
      cases chars with
      | nil => exact .mark mark .callSite .nil
      | cons d chars =>
          have next := others d (List.mem_cons_self ..)
          have behind := ih others
          cases chars with
          | nil => exact .joint mark next .callSite behind
          | cons e chars => exact .joint mark next .callSite behind

/-- A call of a macro of the core library. -/
theorem Printable.coreMacro {text : String} (word : IsWord text.toList) {call : Tokens}
    (more : call.Printable) :
    Printable (Tokens.symbol "::" ++ [.word "core"] ++ Tokens.symbol "::" ++ [.word text] ++
      Tokens.symbol "!" ++ call) := by
  have colons : (Tokens.symbol "::").Printable := .symbol (by decide)
  have core : Printable [.word "core"] := .single (by decide) .callSite
  have bang : (Tokens.symbol "!").Printable := .symbol (by decide)
  exact ((((colons.append core).append colons).append (.single word .callSite)).append bang).append
    more

end Tokens

/-- Steps of a path can be printed if they are words, and no literal is among them. -/
theorem PathSegment.Steps.printable {steps : List PathSegment} (plain : Steps steps)
    (words : ∀ segment ∈ steps, IsWord segment.name.text.toList) :
    Tokens.Printable (steps.flatMap PathSegment.tokens) := by
  induction plain with
  | nil => exact .nil
  | @cons first second name rest _ _ ih =>
      obtain ⟨word, others⟩ := List.forall_mem_cons.mp words
      exact .joint (by decide) (by decide) first
        (.mark (by decide) second (.word word name.span (ih others)))

theorem PathSegment.Steps.constants {steps : List PathSegment} (plain : Steps steps) :
    Tokens.constants (steps.flatMap PathSegment.tokens) = [] := by
  induction plain with
  | nil => rfl
  | cons _ _ ih =>
      rw [List.flatMap_cons, Tokens.constants_append, ih]
      rfl

namespace Path

/-- A path of words. -/
structure OfWords (path : Path) : Prop where
  plain : path.Plain
  words : ∀ segment ∈ path.segments, IsWord segment.name.text.toList

theorem OfWords.printable {path : Path} (named : path.OfWords) : path.tokens.Printable := by
  obtain ⟨plain, words⟩ := named
  cases plain with
  | @here name rest step steps =>
      obtain ⟨word, others⟩ := List.forall_mem_cons.mp words
      exact .word word name.span (steps.printable others)
  | root steps => exact steps.printable words

theorem OfWords.constants {path : Path} (named : path.OfWords) : path.tokens.constants = [] := by
  cases named.plain with
  | here step steps => exact steps.constants
  | root steps => exact steps.constants

end Path

namespace Role

open Tokens (Printable)

theorem printable_errorCode (role : Role) (message : String) :
    (role.errorCode message).Printable := by
  have call : Tokens.Printable [.enclosed .brace [.string message]] :=
    .enclosed (by decide) (.string message .callSite .nil)
  have ending : Tokens.Printable (if role = .declaration then Tokens.symbol ";" else []) := by
    split
    · exact .symbol (by decide)
    · exact .nil
  exact (Printable.coreMacro (by decide) call).append ending

theorem constants_errorCode (role : Role) (message : String) :
    (role.errorCode message).constants = [.text message] := by
  cases role <;> simp [errorCode]

theorem printable_errorCodes (role : Role) (messages : List String) :
    Tokens.Printable (messages.flatMap role.errorCode) := by
  induction messages with
  | nil => exact .nil
  | cons message messages ih => exact (role.printable_errorCode message).append ih

theorem constants_errorCodes (role : Role) (messages : List String) :
    Tokens.constants (messages.flatMap role.errorCode) = messages.map .text := by
  induction messages with
  | nil => rfl
  | cons message messages ih =>
      rw [List.flatMap_cons, Tokens.constants_append, constants_errorCode, ih]
      rfl

/-- Compile errors keep their messages. -/
theorem keeps_errorCodes (role : Role) (messages : List String) :
    Tokens.Keeps (messages.flatMap role.errorCode) (messages.map .text) :=
  (role.printable_errorCodes messages).keeps (role.constants_errorCodes messages)

end Role

namespace Unwrap

open Tokens (Printable)

/-- What the arguments of a report for the place stand for. -/
def placeConstants : Option (String × Nat) → List Constant
  | some (file, line) => [.text file, .number line]
  | none => []

theorem constants_fileArgument (place : Option (String × Nat)) :
    (fileArgument place).constants ++ (lineArgument place).constants = placeConstants place := by
  cases place <;> simp [fileArgument, lineArgument, placeConstants]

theorem printable_fileArgument (place : Option (String × Nat)) :
    (fileArgument place).Printable := by
  cases place with
  | some place => exact .string place.1 .callSite .nil
  | none => exact .coreMacro (by decide) (.enclosed (by decide) .nil)

theorem printable_lineArgument (place : Option (String × Nat)) :
    (lineArgument place).Printable := by
  cases place with
  | some place => exact .number place.2 .callSite .nil
  | none => exact .coreMacro (by decide) (.enclosed (by decide) .nil)

theorem ofWords_some : Runtime.some.OfWords := ⟨Path.plain_absolute (by decide), by decide⟩

theorem constants_guardCode (module : Path) (place : Option (String × Nat)) (value : Expr)
    (name : Ident) :
    (guardCode module (fileArgument place) (lineArgument place) value name).constants =
      module.tokens.constants ++ .text (missingMessage name) :: placeConstants place := by
  rw [← constants_fileArgument]
  simp [guardCode, ofWords_some.constants, Ident.token]

theorem printable_guardCode {module : Path} (path : module.tokens.Printable)
    (place : Option (String × Nat)) (value : Expr) {name : Ident}
    (word : IsWord name.text.toList) :
    (guardCode module (fileArgument place) (lineArgument place) value name).Printable := by
  have semicolon : (Tokens.symbol ";").Printable := .symbol (by decide)
  have comma : (Tokens.symbol ",").Printable := .symbol (by decide)
  have equals : (Tokens.symbol "=").Printable := .symbol (by decide)
  have hash : (Tokens.symbol "#").Printable := .symbol (by decide)
  have colons : (Tokens.symbol "::").Printable := .symbol (by decide)
  have leave : Tokens.Printable [.word "return"] := .single (by decide) .callSite
  have debug : Tokens.Printable [.enclosed .bracket
      [.word "cfg", .enclosed .parenthesis [.word "debug_assertions"]]] :=
    .enclosed (by decide) (.word (by decide) .callSite
      (.enclosed (by decide) (.single (by decide) .callSite)))
  have arguments := ((((Printable.string (missingMessage name) .callSite .nil).append comma).append
    (printable_fileArgument place)).append comma).append (printable_lineArgument place)
  have report : Tokens.Printable [.word "report_failed_unwrapping", .enclosed .parenthesis _] :=
    .word (by decide) .callSite (.enclosed (by decide) arguments)
  have escape := ((((((hash.append debug).append path).append colons).append
    report).append semicolon).append leave).append semicolon
  have pattern : Tokens.Printable [.enclosed .parenthesis [name.token]] :=
    .enclosed (by decide) (.single word name.span)
  have bound : Tokens.Printable [name.token, .word "else", .enclosed .brace _] :=
    .word word name.span (.word (by decide) .callSite (.enclosed (by decide) escape))
  exact (((((Printable.single (by decide) value.span).append ofWords_some.printable).append
    pattern).append equals).append bound).append semicolon

/-- What the literals of guards stand for: for each guard the message and then the place, behind
whatever is in the path of the runtime. -/
def guardConstants (module : Path) (place : Option (String × Nat)) (names : List Ident) :
    List Constant :=
  names.flatMap fun name =>
    module.tokens.constants ++ .text (missingMessage name) :: placeConstants place

/-- Guards keep the messages and the place. -/
theorem keeps_guardCodes {module : Path} (path : module.tokens.Printable)
    (place : Option (String × Nat)) {values : List Expr} {names : List Ident}
    (same : values.length = names.length) (words : ∀ name ∈ names, IsWord name.text.toList) :
    Tokens.Keeps (guardCodes module place values names).flatten
      (guardConstants module place names) := by
  have both : Tokens.Printable (guardCodes module place values names).flatten ∧
      Tokens.constants (guardCodes module place values names).flatten =
        guardConstants module place names := by
    induction names generalizing values with
    | nil => simp [guardCodes, guardConstants, Printable.nil]
    | cons name names ih =>
        obtain ⟨value, values, rfl⟩ := List.exists_cons_of_length_eq_add_one same
        obtain ⟨word, others⟩ := List.forall_mem_cons.mp words
        obtain ⟨printable, constants⟩ := ih (Nat.succ.inj same) others
        have first := constants_guardCode module place value name
        refine ⟨(printable_guardCode path place value word).append printable, ?_⟩
        simp only [guardCodes, List.zipWith_cons_cons, List.flatten_cons,
          Tokens.constants_append] at constants ⊢
        rw [first, constants, guardConstants, guardConstants, List.flatMap_cons]
  exact both.1.keeps both.2

/-- The name and the place can be read off a guard. -/
theorem guardCode_injective {module : Path} {place other : Option (String × Nat)}
    {value another : Expr} {name text : Ident}
    (same : (guardCode module (fileArgument place) (lineArgument place) value name).unplaced =
      (guardCode module (fileArgument other) (lineArgument other) another text).unplaced) :
    name.text = text.text ∧ place = other := by
  obtain ⟨names, -, places⟩ : name.text = text.text ∧
      Quoted.quote .literal (missingMessage name) = Quoted.quote .literal (missingMessage text) ∧
      (fileArgument place).unplaced ++ ((Tokens.symbol ",").unplaced ++
          (lineArgument place).unplaced) =
        (fileArgument other).unplaced ++ ((Tokens.symbol ",").unplaced ++
          (lineArgument other).unplaced) := by
    simpa [guardCode, Tokens.unplaced, Token.unplaced, Token.enclosed, Token.word, Token.string,
      Ident.token] using same
  refine ⟨names, ?_⟩
  cases place with
  | none =>
      cases other with
      | none => rfl
      | some other => cases (List.cons.inj places).1
  | some place =>
      cases other with
      | none => cases (List.cons.inj places).1
      | some other =>
          obtain ⟨file, line⟩ :
              Quoted.quote .literal place.1 = Quoted.quote .literal other.1 ∧
              String.ofList (Nat.toDigits 10 place.2) =
                String.ofList (Nat.toDigits 10 other.2) := by
            simpa [fileArgument, lineArgument, Tokens.unplaced, Token.unplaced, Token.string,
              Token.number] using places
          have number := congrArg (Nat.ofDigitChars 10 ·.toList 0) line
          simp only [String.toList_ofList, Nat.ofDigitChars_ten_toDigits] at number
          rw [Option.some.injEq]
          exact Prod.ext (Quoted.quote_injective .literal file) number

/-- Texts make no difference to the number of tokens of a guard, groups counting once. -/
theorem length_unplaced_guardCode (module : Path) (file line more others : Tokens)
    (value another : Expr) (name text : Ident) :
    (guardCode module file line value name).unplaced.length =
      (guardCode module more others another text).unplaced.length := by
  simp [guardCode, Tokens.unplaced_eq_map]

/-- The names and the place can be read off guards, if there are any. -/
theorem guardCodes_injective {module : Path} {place other : Option (String × Nat)}
    {values more : List Expr} {names texts : List Ident} (same : values.length = names.length)
    (also : more.length = texts.length)
    (alike : Tokens.unplaced (guardCodes module place values names).flatten =
      Tokens.unplaced (guardCodes module other more texts).flatten) :
    names.map Ident.text = texts.map Ident.text ∧ (names ≠ [] → place = other) := by
  induction names generalizing values more texts with
  | nil =>
      cases texts with
      | nil => simp
      | cons text texts =>
          obtain ⟨another, more, rfl⟩ := List.exists_cons_of_length_eq_add_one also
          simp [guardCodes, guardCode, Tokens.unplaced_append, Tokens.unplaced] at alike
  | cons name names ih =>
      obtain ⟨value, values, rfl⟩ := List.exists_cons_of_length_eq_add_one same
      cases texts with
      | nil => simp [guardCodes, guardCode, Tokens.unplaced_append, Tokens.unplaced] at alike
      | cons text texts =>
          obtain ⟨another, more, rfl⟩ := List.exists_cons_of_length_eq_add_one also
          simp only [guardCodes, List.zipWith_cons_cons, List.flatten_cons,
            Tokens.unplaced_append] at alike
          -- The first guards have the same length, so their ends meet.
          obtain ⟨first, behind⟩ := List.append_inj alike (length_unplaced_guardCode ..)
          obtain ⟨here, place⟩ := guardCode_injective first
          obtain ⟨others, -⟩ := ih (Nat.succ.inj same) (Nat.succ.inj also) behind
          exact ⟨by rw [List.map_cons, List.map_cons, here, others], fun _ => place⟩

/-- The code of guards ends with a semicolon. -/
theorem endsLoose_guardCodes {module : Path} {place : Option (String × Nat)} {values : List Expr}
    {names : List Ident} (same : values.length = names.length) (some : names ≠ []) :
    Tokens.EndsLoose (guardCodes module place values names).flatten := by
  induction names generalizing values with
  | nil => exact absurd rfl some
  | cons name names ih =>
      obtain ⟨value, values, rfl⟩ := List.exists_cons_of_length_eq_add_one same
      rw [guardCodes, List.zipWith_cons_cons, List.flatten_cons]
      by_cases last : names = []
      · subst last
        rw [List.zipWith_nil_right, List.flatten_nil, List.append_nil]
        exact (Tokens.EndsLoose.singleton rfl).append _
      · exact (ih (Nat.succ.inj same) last).append _

/-- Guards in front of the statements of a body say what they are meant to say. -/
structure Tells (module : Path) (place : Option (String × Nat)) (values : List Expr)
    (names : List Ident) (emitted : Tokens) : Prop where
  /-- The guards are read back, with the messages and the place. -/
  guards : Tokens.Keeps (guardCodes module place values names).flatten
    (guardConstants module place names)
  /-- The statements behind them are read as they are on their own. -/
  body : names ≠ [] → ∀ others, Tokens.ofText? (" " ++ emitted.render) = some others →
    ∃ read, Tokens.ofText? (Tokens.render ((guardCodes module place values names).flatten ++
        emitted)) = some read ∧
      read.unplaced =
        Tokens.unplaced (guardCodes module place values names).flatten ++ others.unplaced ∧
      read.constants = guardConstants module place names ++ others.constants
  /-- With other names or another place, something else is printed. -/
  distinct : ∀ (other : Option (String × Nat)) (texts : List Ident),
    texts.length = names.length → (∀ text ∈ texts, IsWord text.text.toList) →
    Tokens.render ((guardCodes module other values texts).flatten ++ emitted) =
      Tokens.render ((guardCodes module place values names).flatten ++ emitted) →
    texts.map Ident.text = names.map Ident.text ∧ (names ≠ [] → other = place)

theorem tells_guardCodes {module : Path} (path : module.tokens.Printable)
    (place : Option (String × Nat)) {values : List Expr} {names : List Ident}
    (same : values.length = names.length) (words : ∀ name ∈ names, IsWord name.text.toList)
    (emitted : Tokens) : Tells module place values names emitted := by
  have keeps := keeps_guardCodes path place same words
  refine ⟨keeps, fun some others alone => ?_, fun other texts number proper printed => ?_⟩
  · -- Without statements nothing is printed behind the guards, not even the space.
    by_cases none : emitted = []
    · subst none
      obtain rfl : [] = others := Option.some.inj alone
      obtain ⟨read, found, alike, own⟩ := keeps.alone
      refine ⟨read, by rw [List.append_nil, found], ?_, ?_⟩
      · rw [alike, Tokens.unplaced, List.append_nil]
      · rw [own, Tokens.constants, List.append_nil]
    · rw [Tokens.render_append (endsLoose_guardCodes same some) none, String.append_assoc]
      exact keeps _ others (by simpa using .space _) alone
  · by_cases none : names = []
    · subst none
      obtain rfl := List.length_eq_zero_iff.mp number
      simp
    · have filled : texts ≠ [] := by
        rintro rfl
        exact none (List.length_eq_zero_iff.mp number.symm)
      have also := same.trans number.symm
      -- Both outputs end with the same statements, so the guards in front are printed alike.
      have alike := Tokens.render_cancel (endsLoose_guardCodes also filled)
        (endsLoose_guardCodes same none) printed
      obtain ⟨tokens, -⟩ := (keeps_guardCodes path other also proper).unique keeps alike
      obtain ⟨first, second⟩ := guardCodes_injective also same tokens
      exact ⟨first, fun _ => second filled⟩

end Unwrap

/-! ### Whole calls -/

namespace Builtin

/-- What is wrong with a call in a context, as it is told. -/
def told (kind : Builtin) (options : Options) (tokens : Tokens) (context : Context) :
    List String :=
  faults ((kind.expandTokens options tokens).runIn context).2.pending
    ((kind.expandTokens options tokens).runIn context).1

/-- An accepted unwrapping is printed as its guards, with the statements of its body behind them. -/
theorem exists_guards_of_accepted {options : Options} {tokens : Tokens} {context : Context}
    (accepted : unwrap.Accepted options tokens context) :
    ∃ invocation names emitted, Invocation.ofTokens tokens = .ok invocation ∧
      List.Forall₂ Unwrap.Names (Unwrap.values invocation.arguments) names ∧
      (unwrap.render options tokens context).1 =
        (Unwrap.guardCodes options.module context.place (Unwrap.values invocation.arguments)
          names).flatten ++ emitted := by
  obtain ⟨⟨expansion, result⟩, quiet⟩ := accepted
  have resultOf := resultOf_expandedAt unwrap options tokens context
  generalize everywhere :
    (fun place => (expandedAt unwrap options tokens context place).1) = results at resultOf
  have here : results context.place = .ok expansion := by
    rw [← everywhere]
    exact result
  have printed := printed_render unwrap options tokens context
  rw [result, quiet] at printed
  have output := printed.unique (.expansion expansion rfl)
  cases resultOf with
  | failed failure => cases here
  | other different => exact absurd rfl different
  | @guarded invocation names guards emitted read all codes =>
      cases here
      refine ⟨invocation, names, emitted.flatMap Stmt.tokens, read, all, ?_⟩
      rw [output, Expansion.tokens, List.flatMap_append, ← codes, ← List.flatMap_def]

/-- Different messages are printed differently. -/
theorem errorCodes_injective (role : Role) {messages others : List String}
    (printed : Tokens.render (messages.flatMap role.errorCode) =
      Tokens.render (others.flatMap role.errorCode)) : messages = others := by
  obtain ⟨-, same⟩ := (role.keeps_errorCodes messages).unique (role.keeps_errorCodes others) printed
  exact List.map_injective_iff.mpr (fun _ _ => Constant.text.inj) same

/-- Texts from outside survive quoting. A string literal is one token, ends with its own closing
quote and stands for its text, and a number is one token and has its value. So compile errors are
read back with their messages; the output of a call that is refused consists of them. The guards of
an unwrapping are read back with the names of the values and the place of the call, and the
statements behind them are read as they are on their own. Other texts are printed differently. -/
theorem embedded_texts_survive (kind : Builtin) (options : Options) (tokens : Tokens)
    (context : Context) :
    (∀ text : String,
      (∃ place, Tokens.ofText? (Quoted.quote .literal text) =
        some [.literal (Quoted.quote .literal text) place]) ∧
      Quoted.unquote? (Quoted.quote .literal text) = some text ∧
      ∀ back, Literal.string? ((Quoted.quote .literal text).toList ++ back) =
        some (Literal.afterSuffix back)) ∧
    (∀ n : Nat,
      (∃ place, Tokens.ofText? (String.ofList (Nat.toDigits 10 n)) =
        some [.literal (String.ofList (Nat.toDigits 10 n)) place]) ∧
      Literal.value? (Nat.toDigits 10 n) = some n) ∧
    (∀ message, (compileError message).Keeps [.text message]) ∧
    (¬ kind.Accepted options tokens context →
      (kind.render options tokens context).1.Keeps
        ((kind.told options tokens context).map .text) ∧
      ∀ messages, Tokens.render (messages.flatMap kind.role.errorCode) =
          (kind.render options tokens context).1.render →
        messages = kind.told options tokens context) ∧
    (kind = unwrap → kind.Accepted options tokens context →
      ∃ invocation names emitted, Invocation.ofTokens tokens = .ok invocation ∧
        List.Forall₂ Unwrap.Names (Unwrap.values invocation.arguments) names ∧
        (kind.render options tokens context).1 =
          (Unwrap.guardCodes options.module context.place (Unwrap.values invocation.arguments)
            names).flatten ++ emitted ∧
        (options.module.tokens.Printable → (∀ name ∈ names, IsWord name.text.toList) →
          Unwrap.Tells options.module context.place (Unwrap.values invocation.arguments) names
            emitted)) := by
  refine ⟨fun text => ?_, fun n => ?_, fun message => ?_, fun refused => ?_, ?_⟩
  · have alone := Tokens.Printable.string text .callSite .nil
    exact ⟨alone.ofText?_literal, Quoted.unquote?_quote .literal text,
      Literal.string?_quote text⟩
  · have alone := Tokens.Printable.number n .callSite .nil
    exact ⟨alone.ofText?_literal, Constant.value?_toDigits n⟩
  · have keeps := Role.expression.keeps_errorCodes [message]
    have code : compileError message = [message].flatMap Role.expression.errorCode := rfl
    rwa [code]
  · have output := (printed_render kind options tokens context).eq_errors fun none =>
      refused (accepted_iff.mpr none)
    rw [output]
    exact ⟨kind.role.keeps_errorCodes _, fun messages printed =>
      errorCodes_injective kind.role printed⟩
  · rintro rfl accepted
    obtain ⟨invocation, names, emitted, read, all, output⟩ := exists_guards_of_accepted accepted
    exact ⟨invocation, names, emitted, read, all, output, fun path words =>
      Unwrap.tells_guardCodes path context.place all.length_eq words emitted⟩

/-- The unwrapping `r#type => { done }`. -/
def rawName : Tokens :=
  [.word "r#type"] ++ Tokens.symbol "=>" ++ [.enclosed .brace [.word "done"]]

/-- The invocation that these tokens spell. -/
def rawInvocation : Invocation where
  items := [(⟨none, .path (.ofName (.made "r#type"))⟩, [])]
  trailing := some ⟨Tokens.symbol "=>", [.expr (.path (.ofName (.made "done"))) []], .callSite⟩

/-- A call in a file whose name has a quote, a backslash, a line feed and a zero in front of a digit
in it. -/
def awkwardPlace : Context where
  place := some ("a\"\\\n\x001.rs", 7)

theorem embedded_texts_survive_rawName :
    unwrap.Accepted {} rawName awkwardPlace ∧
    (Options.module {}).tokens.Printable ∧
    (∃ read, Tokens.ofText? (unwrap.render {} rawName awkwardPlace).1.render = some read ∧
      read.constants =
        [.text "Unexpected None value: r#type", .text "a\"\\\n\x001.rs", .number 7]) ∧
    ¬ color.Accepted {} [] {} ∧
    (color.render {} [] {}).1.Keeps
      [.text "color! requires a hexadecimal integer literal argument"] := by
  have accepted : unwrap.Accepted {} rawName awkwardPlace := ⟨⟨_, rfl⟩, rfl⟩
  have path : (Options.module {}).tokens.Printable :=
    Path.OfWords.printable ⟨Path.plain_absolute (by decide), by decide⟩
  have refused : ¬ color.Accepted {} [] {} := fun accepted => by cases accepted.2
  obtain ⟨-, -, -, errors, -⟩ := embedded_texts_survive color {} [] {}
  obtain ⟨-, -, -, -, guarded⟩ := embedded_texts_survive unwrap {} rawName awkwardPlace
  obtain ⟨invocation, names, emitted, read, all, output, tells⟩ := guarded rfl accepted
  have parsed : Invocation.ofTokens rawName = .ok rawInvocation := rfl
  obtain rfl := Except.ok.inj (parsed.symm.trans read)
  have values : Unwrap.values rawInvocation.arguments =
      [.path (.ofName (.made "r#type"))] := rfl
  rw [values] at all output tells
  obtain ⟨name, rest, named, none, rfl⟩ := List.forall₂_cons_left_iff.mp all
  obtain rfl := List.forall₂_nil_left_iff.mp none
  cases named
  have whole : (unwrap.render {} rawName awkwardPlace).1 =
      (Unwrap.guardCodes (.absolute ["freestanding"]) awkwardPlace.place
        [.path (.ofName (.made "r#type"))] [.made "r#type"]).flatten ++
        ([.word "done"] ++ Tokens.symbol ";") := rfl
  obtain rfl := List.append_cancel_left (output.symm.trans whole)
  have alone : Tokens.ofText? (" " ++ Tokens.render ([.word "done"] ++ Tokens.symbol ";")) =
      some [.ident "done" _, .punct ';' .alone _] := rfl
  obtain ⟨again, found, -, constants⟩ := (tells path (by decide)).body (by decide) _ alone
  have told : Unwrap.guardConstants (Options.module {}) awkwardPlace.place [.made "r#type"] =
        [.text "Unexpected None value: r#type", .text "a\"\\\n\x001.rs", .number 7] := by
    decide
  have message : color.told {} [] {} =
      ["color! requires a hexadecimal integer literal argument"] := rfl
  have keeps := (errors refused).1
  rw [message] at keeps
  have nothing (first last : Span) :
      Tokens.constants [.ident "done" first, .punct ';' .alone last] = [] := rfl
  rw [nothing, told, List.append_nil] at constants
  refine ⟨accepted, path, ⟨again, ?_, constants⟩, refused, keeps⟩
  rw [output]
  exact found

end Builtin

end MacroExpansion
