import MacroExpansion.Grammar.Error
import MacroExpansion.Grammar.Lookahead

/-!
# Readers of code

A reader takes tokens off the front of its input and fails at the first one it cannot use. Entering
a group gives a reader a new input, the group's content. A group whose content is not used up does
not stop the reading at once: the first leftover is remembered, and it counts only if nothing else
is wrong.

Readers of parts that are never taken apart give back the tokens themselves, spaced the way the
grammar sees them: the characters of an operator joint, its end alone.
-/

namespace MacroExpansion

/-- What is left to read. -/
structure Input where
  rest : Tokens
  /-- The group that is being read; invisible at the outermost level. -/
  group : Delimiter
  /-- Where the group ends. -/
  close : Span
  /-- The first token that was left over in a group read before. -/
  leftover : Option SyntaxError
deriving Inhabited

namespace Input

/-- Everything is still to be read. -/
def ofTokens (tokens : Tokens) : Input := ⟨tokens, .invisible, .callSite, none⟩

/-- Where an error at the current token is reported. -/
def place (input : Input) : Span :=
  match input.rest with
  | [] => input.close
  | token :: _ => token.front

end Input

/-- A reader of code. -/
abbrev TokenReader := StateT Input (Except SyntaxError)

mutual

/-- The first visible token of one that is left over in a group of the given kind. -/
def Token.leftover? (within : Delimiter) : Token → Option SyntaxError
  | .group .invisible inner _ => Tokens.leftover? .invisible inner
  | token => some ⟨.leftover within, token.span⟩

/-- The first visible token left over in a group of the given kind. Empty invisible groups do not
count. -/
def Tokens.leftover? (within : Delimiter) : Tokens → Option SyntaxError
  | [] => none
  | token :: rest =>
    match token.leftover? within with
    | some error => some error
    | none => Tokens.leftover? within rest

end

namespace TokenReader

variable {α : Type}

/-- The tokens still to be read. -/
def ahead : TokenReader Tokens := fun input => .ok (input.rest, input)

/-- Is everything read? -/
def atEnd : TokenReader Bool := fun input => .ok (input.rest.isEmpty, input)

/-- Where an error would be reported here. -/
def place : TokenReader Span := fun input => .ok (input.place, input)

/-- Fail here with the given cause. -/
def failWith (cause : SyntaxCause) : TokenReader α := fun input => .error ⟨cause, input.place⟩

/-- Fail at a given place. -/
def failAt (cause : SyntaxCause) (span : Span) : TokenReader α := fun _ => .error ⟨cause, span⟩

/-- Fail because something else was expected here. -/
def expected (what : String) : TokenReader α := fun input =>
  .error ⟨if input.rest.isEmpty then .missingAtEnd what else .missing what, input.place⟩

/-- The wording of a choice between forms. -/
def choice : List String → String
  | [form] => form
  | [first, second] => first ++ " or " ++ second
  | forms => "one of: " ++ ", ".intercalate forms

/-- Fail because one of some forms was expected here. -/
def expectedOneOf (forms : List String) : TokenReader α := expected (choice forms)

/-- Read a part if the condition holds of what is ahead. -/
def ifAhead (condition : Tokens → Bool) (part : TokenReader Tokens) : TokenReader Tokens := do
  if condition (← ahead) then part else pure []

/-- Split the characters of an operator off the front, joint inside and alone at the end. -/
def splitChars? : List Char → Tokens → Option (Tokens × Tokens)
  | [], tokens => some ([], tokens)
  | c :: cs, tokens =>
    match tokens.expose with
    | .punct d spacing span :: rest =>
      if d = c then
        if cs.isEmpty then some ([.punct d .alone span], rest)
        else if spacing = .joint then
          (splitChars? cs rest).map fun (more, rest) => (.punct d .joint span :: more, rest)
        else none
      else none
    | _ => none

/-- Where a missing operator is reported: at the punctuation found instead, if there is any. -/
def operatorPlace (input : Input) : Span :=
  match input.rest.expose with
  | .punct _ _ span :: _ => span
  | _ => input.place

/-- Take an operator. -/
def operator (text : String) : TokenReader Tokens := fun input =>
  match splitChars? text.toList input.rest with
  | some (tokens, rest) => .ok (tokens, { input with rest := rest })
  | none => .error ⟨.missing ("`" ++ text ++ "`"), operatorPlace input⟩

/-- Take an operator if it is there. -/
def operator? (text : String) : TokenReader Tokens :=
  ifAhead (·.sees text) (operator text)

/-- Take a reserved word. -/
def keyword (text : String) : TokenReader Tokens := fun input =>
  match input.rest.expose with
  | .ident name span :: rest =>
    if name = text then .ok ([.ident name span], { input with rest := rest })
    else expected ("`" ++ text ++ "`") input
  | _ => expected ("`" ++ text ++ "`") input

/-- Take a reserved word if it is there. -/
def keyword? (text : String) : TokenReader Tokens :=
  ifAhead (·.seesWord text) (keyword text)

/-- Take a word, reserved or not. -/
def anyIdent : TokenReader Ident := fun input =>
  match input.rest.expose with
  | .ident text span :: rest => .ok (⟨text, span⟩, { input with rest := rest })
  | _ => expected "identifier" input

/-- Take a word, reserved or not, as a token. -/
def anyWord : TokenReader Token := do
  return (← anyIdent).token

/-- Take a name. -/
def ident : TokenReader Ident := fun input =>
  match input.rest.expose with
  | .ident text span :: rest =>
    if Identifier.isName text then .ok (⟨text, span⟩, { input with rest := rest })
    else .error ⟨.reserved text, input.place⟩
  | _ => expected "identifier" input

/-- Take a name as a token. -/
def name : TokenReader Token := do
  return (← ident).token

/-- Take a literal. -/
def literal : TokenReader Token := fun input =>
  match input.rest.expose with
  | .literal text span :: rest => .ok (.literal text span, { input with rest := rest })
  | .ident text span :: rest =>
    if text = "true" || text = "false" then .ok (.ident text span, { input with rest := rest })
    else expected "literal" input
  | _ => expected "literal" input

/-- Take a literal, or a number with its sign. -/
def signedLiteral : TokenReader Tokens := do
  let sign ← operator? "-"
  return sign ++ [← literal]

/-- Take a lifetime. -/
def lifetime : TokenReader Tokens := fun input =>
  match input.rest.expose with
  | .punct '\'' .joint place :: .ident name span :: rest =>
    .ok ([.punct '\'' .joint place, .ident name span], { input with rest := rest })
  | _ => expected "lifetime" input

/-- Take a lifetime if it is there. -/
def lifetime? : TokenReader Tokens :=
  ifAhead (·.seesLifetime) lifetime

/-- What a group is called when it is missing. -/
def groupName : Delimiter → String
  | .parenthesis => "parentheses"
  | .brace => "curly braces"
  | .bracket => "square brackets"
  | .invisible => "invisible group"

/-- Read the content of a group with `content`, and go on behind it. -/
def inside (content : TokenReader α) (delimiter : Delimiter) (inner : Tokens) (span : Span)
    (rest : Tokens) : TokenReader α := fun input =>
  match content ⟨inner, delimiter, span.last, input.leftover⟩ with
  | .error error => .error error
  | .ok (value, done) =>
    .ok (value, { input with
      rest := rest
      leftover := done.leftover <|> done.rest.leftover? delimiter })

/-- Take a group and read its content. -/
def group (delimiter : Delimiter) (content : TokenReader α) : TokenReader (α × Span) := fun input =>
  match input.rest.expose with
  | .group d inner span :: rest =>
    if d = delimiter then
      inside (do return (← content, span)) delimiter inner span rest input
    else expected (groupName delimiter) input
  | _ => expected (groupName delimiter) input

/-- Take an invisible group and read its content. -/
def invisible (content : TokenReader α) : TokenReader (α × Span) := fun input =>
  match input.rest with
  | .group .invisible inner span :: rest =>
    inside (do return (← content, span)) .invisible inner span rest input
  | _ => expected (groupName .invisible) input

/-- Take a group and give it back around what was read inside. -/
def grouped (delimiter : Delimiter) (content : TokenReader Tokens) : TokenReader Tokens := do
  let (inner, span) ← group delimiter content
  pure [.group delimiter inner span]

/-- Take any visible group as it is. -/
def anyGroup : TokenReader Token := fun input =>
  match input.rest with
  | .group .invisible _ _ :: _ => expected "delimiter" input
  | .group delimiter inner span :: rest =>
    .ok (.group delimiter inner span, { input with rest := rest })
  | _ => expected "delimiter" input

/-- Take everything that is left as it is. -/
def everything : TokenReader Tokens := fun input => .ok (input.rest, { input with rest := [] })

/-- Read with `part` as long as `more` holds of what is ahead. As each part takes a token, the
number of tokens bounds the number of parts. -/
def repeatWhile (more : Tokens → Bool) (part : TokenReader Tokens) : TokenReader Tokens := do
  go ((← ahead).size + 1)
where
  /-- Read at most the given number of parts. -/
  go : Nat → TokenReader Tokens
    | 0 => pure []
    | bound + 1 => do
      if more (← ahead) then return (← part) ++ (← go bound) else pure []

/-- Read parts that `separator` divides. Before a part `before` may end the sequence, after one
`after`; so a separator may stand at the end. -/
def separatedBy (separator : String) (before after : Tokens → Bool) (part : TokenReader Tokens) :
    TokenReader Tokens := do
  go ((← ahead).size + 1)
where
  /-- Read at most the given number of parts. -/
  go : Nat → TokenReader Tokens
    | 0 => pure []
    | bound + 1 => do
      if before (← ahead) then pure []
      else
        let first ← part
        if after (← ahead) then pure first
        else return first ++ (← operator separator) ++ (← go bound)

/-- Read parts that `separator` divides until `stop` holds of what is ahead. -/
def separated (separator : String) (stop : Tokens → Bool) (part : TokenReader Tokens) :
    TokenReader Tokens :=
  separatedBy separator stop stop part

/-- Is the reader at the end of its group? -/
def ended (tokens : Tokens) : Bool := tokens.isEmpty

/-- The tokens taken since `start` was ahead, the way they were written. -/
def taken (start : Tokens) : TokenReader Tokens := do
  return start.before (← ahead).seen

/-- Read with `reader` and keep the tokens it takes the way they were written. -/
def asWritten (reader : TokenReader α) : TokenReader Tokens := do
  let start ← ahead
  let _ ← reader
  taken start

/-- Does the reader succeed here? Nothing is taken. -/
def succeeds (reader : TokenReader α) : TokenReader (Option (α × Tokens)) := fun input =>
  match reader input with
  | .ok (value, after) => .ok (some (value, after.rest), input)
  | .error _ => .ok (none, input)

/-- Go on with the given tokens. -/
def resume (rest : Tokens) : TokenReader Unit := fun input => .ok ((), { input with rest := rest })

/-- Read a whole list of tokens. Failing wins over what is left over in a group, and that over what
is left over at the end. -/
def run (reader : TokenReader α) (tokens : Tokens) : Except SyntaxError α :=
  match reader (.ofTokens tokens) with
  | .error error => .error error
  | .ok (value, done) =>
    match done.leftover <|> done.rest.leftover? .invisible with
    | some error => .error error
    | none => .ok value

end TokenReader

end MacroExpansion
