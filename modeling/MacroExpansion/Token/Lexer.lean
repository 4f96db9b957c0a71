import MacroExpansion.Text.Blank
import MacroExpansion.Token.Basic
import MacroExpansion.Token.Literal

/-!
# From text to tokens

Reading goes in two steps. The text is cut into lexemes, flat and each with its span; then the
delimiters are matched and the tokens between them become groups. Blanks and comments separate
lexemes. A documentation comment is a lexeme: it stands for an attribute with the comment's text.

The text is refused as a whole if some part of it is no lexeme or a delimiter has no partner.
-/

namespace MacroExpansion

namespace Lexer

/-- What follows a block comment, from its opening on. Comments nest; `depth` counts those open. -/
def afterBlock? : Nat → List Char → Option (List Char)
  | _, [] => none
  | depth, '/' :: '*' :: rest => afterBlock? (depth + 1) rest
  | depth, '*' :: '/' :: rest => if depth ≤ 1 then some rest else afterBlock? (depth - 1) rest
  | depth, _ :: rest => afterBlock? depth rest

/-- Cut at the end of the line, in front of a line feed or of a carriage return with one. -/
def splitLine : List Char → List Char × List Char
  | [] => ([], [])
  | '\n' :: rest => ([], '\n' :: rest)
  | '\r' :: '\n' :: rest => ([], '\r' :: '\n' :: rest)
  | c :: rest => (c :: (splitLine rest).1, (splitLine rest).2)

/-- Does a line comment that documents nothing begin here? -/
def isLineComment : List Char → Bool
  | '/' :: '/' :: '/' :: '/' :: _ => true
  | '/' :: '/' :: '/' :: _ => false
  | '/' :: '/' :: '!' :: _ => false
  | '/' :: '/' :: _ => true
  | _ => false

/-- Does a block comment that documents nothing begin here? -/
def isBlockComment : List Char → Bool
  | '/' :: '*' :: '*' :: '/' :: _ => true
  | '/' :: '*' :: '*' :: '*' :: _ => true
  | '/' :: '*' :: '*' :: _ => false
  | '/' :: '*' :: '!' :: _ => false
  | '/' :: '*' :: _ => true
  | _ => false

/-- Drop one blank or comment, if the text begins with one. -/
def dropBlank? : List Char → Option (List Char)
  | [] => none
  | c :: rest =>
    if isLineComment (c :: rest) then some (splitLine (c :: rest)).2
    else if isBlockComment (c :: rest) then afterBlock? 0 (c :: rest)
    else if Blank.isBlank c then some rest
    else none

/-- Drop all blanks and comments at the front. Each step shortens the text, so as many steps as it
has characters are enough. -/
def dropBlanks : Nat → List Char → List Char
  | 0, text => text
  | steps + 1, text =>
    match dropBlank? text with
    | some rest => dropBlanks steps rest
    | none => text

/-- The characters that are punctuation. -/
def isPunct (c : Char) : Bool :=
  "~!@#$%^&*-=+|;:,<.>/?'".toList.contains c

/-- Does the text begin with punctuation, and not with a comment? -/
def beginsWithPunct : List Char → Bool
  | '/' :: '/' :: _ => false
  | '/' :: '*' :: _ => false
  | c :: _ => isPunct c
  | [] => false

/-- Split off a word, raw or not. The words that name a place cannot be raw. -/
def word? : List Char → Option (List Char × List Char)
  | 'r' :: '#' :: text =>
    (Identifier.split? text).bind fun (name, rest) =>
      if ["_", "super", "self", "Self", "crate"].contains (String.ofList name) then none
      else some ('r' :: '#' :: name, rest)
  | text => Identifier.split? text

/-- Does a quote begin here behind the letters that say what is quoted? Such a text is a literal or
nothing. -/
def beginsQuoted : List Char → Bool
  | 'r' :: '"' :: _ => true
  | 'r' :: '#' :: '"' :: _ => true
  | 'r' :: '#' :: '#' :: _ => true
  | 'b' :: '"' :: _ => true
  | 'b' :: '\'' :: _ => true
  | 'b' :: 'r' :: '"' :: _ => true
  | 'b' :: 'r' :: '#' :: _ => true
  | 'c' :: '"' :: _ => true
  | 'c' :: 'r' :: '"' :: _ => true
  | 'c' :: 'r' :: '#' :: _ => true
  | _ => false

/-- A single quote that opens a lifetime: a word must follow, and nothing that would make it a
character. -/
def lifetime? (rest : List Char) : Bool :=
  match word? rest with
  | none => false
  | some (_, after) =>
    match after with
    | '\'' :: _ => false
    | '#' :: _ => rest.take 2 == ['r', '#']
    | _ => true

/-- The comment text that stands for a broken expression. It counts as a literal. -/
def brokenMark : List Char := "(/*ERROR*/)".toList

/-- One step of reading. -/
inductive Lexeme where
  | opening (delimiter : Delimiter)
  | closing (delimiter : Delimiter)
  | word (text : List Char)
  | punct (char : Char) (spacing : Spacing)
  | literal (text : List Char)
  /-- A documentation comment, about what contains it or about what follows. -/
  | doc (inner : Bool) (text : List Char)
deriving Repr

/-- What has been read when `rest` is left of `text`. -/
def consumed (text rest : List Char) : List Char :=
  text.take (text.length - rest.length)

/-- Is every carriage return followed by a line feed? -/
def hasPairedReturns : List Char → Bool
  | [] => true
  | '\r' :: rest => rest.head? == some '\n' && hasPairedReturns rest
  | _ :: rest => hasPairedReturns rest

/-- The inside of a block comment. -/
def insideBlock (text rest : List Char) : List Char :=
  ((consumed text rest).drop 3).dropLast.dropLast

/-- A documentation comment: whether it is an inner one, its text, and what follows. -/
def docComment? : List Char → Option (Bool × List Char × List Char)
  | '/' :: '/' :: '!' :: rest => some (true, splitLine rest)
  | '/' :: '/' :: '/' :: rest =>
    if rest.head? = some '/' then none else some (false, splitLine rest)
  | '/' :: '*' :: '!' :: rest =>
    let text := '/' :: '*' :: '!' :: rest
    (afterBlock? 0 text).map fun after => (true, insideBlock text after, after)
  | '/' :: '*' :: '*' :: rest =>
    let text := '/' :: '*' :: '*' :: rest
    if rest.head? = some '*' then none
    else (afterBlock? 0 text).map fun after => (false, insideBlock text after, after)
  | _ => none

/-- The delimiter a character opens. -/
def opens? : Char → Option Delimiter
  | '(' => some .parenthesis
  | '[' => some .bracket
  | '\x7b' => some .brace
  | _ => none

/-- The delimiter a character closes. -/
def closes? : Char → Option Delimiter
  | ')' => some .parenthesis
  | ']' => some .bracket
  | '\x7d' => some .brace
  | _ => none

/-- A literal, punctuation or a word, in this order of preference. -/
def leaf? (text : List Char) : Option (Lexeme × List Char) :=
  match Literal.rest? text with
  | some rest => some (.literal (consumed text rest), rest)
  | none =>
    match text with
    | [] => none
    | c :: rest =>
      if c = '\'' then if lifetime? rest then some (.punct c .joint, rest) else none
      else if beginsWithPunct text then
        some (.punct c (if beginsWithPunct rest then .joint else .alone), rest)
      else if beginsQuoted text then none
      else
        match word? text with
        | some (name, rest) => some (.word name, rest)
        | none => (Literal.after? brokenMark text).map fun rest => (.literal brokenMark, rest)

/-- The lexeme at the front of a text without leading blanks, and what follows it. -/
def lexeme? (text : List Char) : Option (Lexeme × List Char) :=
  match docComment? text with
  | some (inner, comment, rest) =>
    if hasPairedReturns comment then some (.doc inner comment, rest) else none
  | none =>
    match text with
    | [] => none
    | c :: rest =>
      match opens? c, closes? c with
      | some delimiter, _ =>
        if (Literal.after? brokenMark text).isSome then leaf? text
        else some (.opening delimiter, rest)
      | none, some delimiter => some (.closing delimiter, rest)
      | none, none => leaf? text

/-- Cut the text from `position` on into lexemes with their spans. -/
def lexemes? : Nat → Position → List Char → Option (List (Lexeme × Span))
  | 0, _, text => if text.isEmpty then some [] else none
  | steps + 1, position, text =>
    let text' := dropBlanks text.length text
    let start := position.advanceBy (consumed text text')
    if text'.isEmpty then some []
    else
      (lexeme? text').bind fun (lexeme, rest) =>
        let stop := start.advanceBy (consumed text' rest)
        (lexemes? steps stop rest).map ((lexeme, ⟨start, stop⟩) :: ·)

/-- The attribute that a documentation comment stands for, every token of it at the comment. -/
def docTokens (inner : Bool) (text : List Char) (span : Span) : Tokens :=
  let content : Tokens := [.ident "doc" span, .punct '=' .alone span,
    .literal (Quoted.quote .literal (String.ofList text)) span]
  .punct '#' .alone span :: (if inner then [.punct '!' .alone span] else []) ++
    [.group .bracket content span]

/-- A group that is still open: where it began, and the tokens before it, last first. -/
structure Frame where
  delimiter : Delimiter
  start : Position
  before : Tokens

/-- Match the delimiters. `done` holds the tokens of the innermost open group, last first. -/
def assemble? : List Frame → Tokens → List (Lexeme × Span) → Option Tokens
  | [], done, [] => some done.reverse
  | _ :: _, _, [] => none
  | frames, done, (lexeme, span) :: rest =>
    match lexeme with
    | .opening delimiter => assemble? (⟨delimiter, span.start, done⟩ :: frames) [] rest
    | .closing delimiter =>
      match frames with
      | [] => none
      | frame :: frames =>
        if frame.delimiter = delimiter then
          assemble? frames
            (.group delimiter done.reverse ⟨frame.start, span.stop⟩ :: frame.before) rest
        else none
    | .word text => assemble? frames (.ident (String.ofList text) span :: done) rest
    | .punct char spacing => assemble? frames (.punct char spacing span :: done) rest
    | .literal text => assemble? frames (.literal (String.ofList text) span :: done) rest
    | .doc inner text => assemble? frames ((docTokens inner text span).reverse ++ done) rest

end Lexer

namespace Tokens

/-- Read a text as tokens. A byte order mark in front is passed over, though it takes a column. -/
def ofText? (text : String) : Option Tokens :=
  let chars := text.toList
  let (position, chars) :=
    match chars with
    | '\uFEFF' :: rest => (Position.origin.advance '\uFEFF', rest)
    | chars => (Position.origin, chars)
  (Lexer.lexemes? (chars.length + 1) position chars).bind (Lexer.assemble? [] [])

end Tokens

mutual

/-- Make the marked groups inside a token invisible. -/
def Token.hide (marker : String) : Token → Token
  | .group delimiter inner span => .group delimiter (Tokens.hide marker inner) span
  | token => token

/-- Make invisible, at any depth, every round group right after the word `marker`. The word itself
disappears, and the group keeps the place of its parentheses. -/
def Tokens.hide (marker : String) : Tokens → Tokens
  | [] => []
  | .ident text span :: .group .parenthesis inner place :: rest =>
    if text = marker then
      .group .invisible (Tokens.hide marker inner) place :: Tokens.hide marker rest
    else
      .ident text span :: .group .parenthesis (Tokens.hide marker inner) place ::
        Tokens.hide marker rest
  | token :: rest => token.hide marker :: Tokens.hide marker rest

end

end MacroExpansion
