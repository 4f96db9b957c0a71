import MacroExpansion.Source.Span
import MacroExpansion.Text.Quoted

/-!
# Tokens

A token is a word, a single punctuation character, a literal kept as it was written, or a group of
tokens between delimiters. Operators of several characters are runs of punctuation whose members
are joint: nothing stands between them and the next character.

An invisible group has no delimiters in the text. It keeps together what was handed on as one piece
of code. Wherever a token of another kind is looked for, such a group is looked through:
`Tokens.expose` replaces the groups at the front of a list by their contents.
-/

namespace MacroExpansion

/-- Does punctuation stand right before more punctuation? -/
inductive Spacing where
  | alone
  | joint
deriving DecidableEq, Repr, Inhabited

/-- What surrounds a group. -/
inductive Delimiter where
  | parenthesis
  | brace
  | bracket
  | invisible
deriving DecidableEq, Repr, Inhabited

/-- A token of the source text, or one made up by an expansion. -/
inductive Token where
  | ident (text : String) (span : Span)
  | punct (char : Char) (spacing : Spacing) (span : Span)
  | literal (text : String) (span : Span)
  | group (delimiter : Delimiter) (inner : List Token) (span : Span)
deriving Repr, Inhabited

/-- A sequence of tokens in the order of the text. -/
abbrev Tokens := List Token

namespace Token

/-- The whole stretch of a token, for a group with its delimiters. -/
def span : Token → Span
  | ident _ span => span
  | punct _ _ span => span
  | literal _ span => span
  | group _ _ span => span

/-- Where a token begins to be visible: a group by its opening delimiter. -/
def front : Token → Span
  | group _ _ span => span.first
  | token => token.span

/-- Is nothing to stand between this token and the next? -/
def isJoint : Token → Bool
  | punct _ .joint _ => true
  | _ => false

/-- Is it a group in braces? -/
def isBrace : Token → Bool
  | group .brace _ _ => true
  | _ => false

/-- Is it this word? -/
def isWord (word : String) : Token → Bool
  | ident text _ => text == word
  | _ => false

/-- A made-up word. -/
def word (text : String) : Token := .ident text .callSite

/-- A made-up group. -/
def enclosed (delimiter : Delimiter) (inner : Tokens) : Token := .group delimiter inner .callSite

/-- A made-up string literal with the given content. -/
def string (text : String) : Token := .literal (Quoted.quote .literal text) .callSite

/-- A made-up number without a suffix. -/
def number (n : Nat) : Token := .literal (String.ofList (Nat.toDigits 10 n)) .callSite

end Token

/-- A word and its place. -/
structure Ident where
  text : String
  span : Span
deriving DecidableEq, Repr, Inhabited

namespace Ident

/-- The word as a token. -/
def token (ident : Ident) : Token := .ident ident.text ident.span

/-- A made-up word. -/
def made (text : String) : Ident := ⟨text, .callSite⟩

end Ident

namespace Tokens

/-- The stretch from the first to the last token; nothing stands at the place of the invocation. -/
def extent : Tokens → Span
  | [] => .callSite
  | t :: rest => t.span.through ((t :: rest).getLast (by simp)).span

/-- Where the first token starts. -/
def start : Tokens → Position
  | [] => .origin
  | t :: _ => t.span.start

/-- Do the tokens end with a group in braces? -/
def endsWithBrace (tokens : Tokens) : Bool :=
  tokens.getLast?.any Token.isBrace

/-- Made-up punctuation read as one operator: joint inside and alone at its end. -/
def symbol (text : String) : Tokens :=
  go text.toList
where
  /-- The operator made of the given characters. -/
  go : List Char → Tokens
    | [] => []
    | [c] => [.punct c .alone .callSite]
    | c :: rest => .punct c .joint .callSite :: go rest

end Tokens

mutual

/-- The token itself, or what an invisible group starts with once its own invisible groups at the
front are opened. -/
def Token.opened : Token → Tokens
  | .group .invisible inner _ => Tokens.expose inner
  | token => [token]

/-- Open the invisible groups at the front of a list, so that it starts with a visible token. -/
def Tokens.expose : Tokens → Tokens
  | [] => []
  | token :: rest =>
    match token.opened with
    | [] => Tokens.expose rest
    | opened => opened ++ rest

end

mutual

/-- The number of tokens in a token, itself included. -/
def Token.size : Token → Nat
  | .group _ inner _ => Tokens.size inner + 1
  | _ => 1

/-- The number of tokens in a list at any depth. -/
def Tokens.size : Tokens → Nat
  | [] => 0
  | token :: rest => token.size + Tokens.size rest

end

mutual

/-- The number of tokens that are seen when all invisible groups are opened. -/
def Token.seen : Token → Nat
  | .group .invisible inner _ => Tokens.seen inner
  | _ => 1

/-- The number of tokens of a list that are seen when all invisible groups are opened. -/
def Tokens.seen : Tokens → Nat
  | [] => 0
  | token :: rest => token.seen + Tokens.seen rest

end

mutual

/-- The part of a token in front of its last `left` seen ones. -/
def Token.before (left : Nat) : Token → Tokens
  | .group .invisible inner _ => Tokens.before left inner
  | token => [token]

/-- The tokens in front of the last `left` seen ones. An invisible group stays whole unless the cut
goes through it. -/
def Tokens.before (left : Nat) : Tokens → Tokens
  | [] => []
  | token :: rest =>
    let behind := Tokens.seen rest
    if token.seen + behind ≤ left then []
    else if left ≤ behind then token :: Tokens.before left rest
    else token.before (left - behind)

end

namespace Tokens

@[simp] theorem expose_nil : expose [] = [] := rfl

@[simp] theorem expose_ident (text : String) (span : Span) (rest : Tokens) :
    expose (.ident text span :: rest) = .ident text span :: rest := by
  simp [expose, Token.opened]

@[simp] theorem expose_punct (c : Char) (spacing : Spacing) (span : Span) (rest : Tokens) :
    expose (.punct c spacing span :: rest) = .punct c spacing span :: rest := by
  simp [expose, Token.opened]

@[simp] theorem expose_literal (text : String) (span : Span) (rest : Tokens) :
    expose (.literal text span :: rest) = .literal text span :: rest := by
  simp [expose, Token.opened]

@[simp] theorem size_append (front rest : Tokens) :
    size (front ++ rest) = size front + size rest := by
  induction front with
  | nil => simp [size]
  | cons token front ih => simp [size, ih, Nat.add_assoc]

end Tokens

end MacroExpansion
