import MacroExpansion.Text.Identifier
import MacroExpansion.Token.Basic
import MacroExpansion.Token.Literal

/-!
# Looking ahead

Questions about what a list of tokens starts with. All of them look through invisible groups except
`Tokens.seesInvisible`, which asks for one. `Tokens.second` and `Tokens.third` give what is behind
one or two tokens, so that a question about them is a question about these lists.
-/

namespace MacroExpansion

namespace Tokens

/-- Is the first token an invisible group? -/
def seesInvisible : Tokens → Bool
  | .group .invisible _ _ :: _ => true
  | _ => false

/-- Do the tokens start with the punctuation of one operator? Its characters must be joint. -/
def seesChars : List Char → Tokens → Bool
  | [], _ => true
  | c :: cs, tokens =>
    match expose tokens with
    | .punct d spacing _ :: rest =>
      d == c && (cs.isEmpty || (spacing == .joint && seesChars cs rest))
    | _ => false

/-- Do the tokens start with the operator? More punctuation may follow it. -/
def sees (operator : String) (tokens : Tokens) : Bool :=
  seesChars operator.toList tokens

/-- Do the tokens start with one of the operators? -/
def seesAny (operators : List String) (tokens : Tokens) : Bool :=
  operators.any fun operator => sees operator tokens

/-- The word at the front, reserved or not. -/
def word? (tokens : Tokens) : Option String :=
  match expose tokens with
  | .ident text _ :: _ => some text
  | _ => none

/-- Do the tokens start with this word? -/
def seesWord (word : String) (tokens : Tokens) : Bool :=
  word? tokens == some word

/-- Do the tokens start with one of these words? -/
def seesWords (words : List String) (tokens : Tokens) : Bool :=
  words.any fun word => seesWord word tokens

/-- Do the tokens start with a word that may serve as a name? -/
def seesName (tokens : Tokens) : Bool :=
  (word? tokens).any Identifier.isName

/-- Do the tokens start with a group of this kind? -/
def seesGroup (delimiter : Delimiter) (tokens : Tokens) : Bool :=
  match expose tokens with
  | .group d _ _ :: _ => d == delimiter
  | _ => false

/-- Do the tokens start with a literal token? -/
def seesLiteral (tokens : Tokens) : Bool :=
  match expose tokens with
  | .literal _ _ :: _ => true
  | .ident text _ :: _ => text == "true" || text == "false"
  | _ => false

/-- Do the tokens start with a literal integer? -/
def seesInteger (tokens : Tokens) : Bool :=
  match expose tokens with
  | .literal text _ :: _ => Literal.isInteger text
  | _ => false

/-- Do the tokens start with a number that has a point or an exponent? -/
def seesFloat (tokens : Tokens) : Bool :=
  match expose tokens with
  | .literal text _ :: _ =>
    (text.toList.head?).any Char.isDigit && !Literal.isInteger text
  | _ => false

/-- Do the tokens start with a string literal, raw or not? -/
def seesString (tokens : Tokens) : Bool :=
  match expose tokens with
  | .literal text _ :: _ => (text.toList.head?).any fun c => c == '"' || c == 'r'
  | _ => false

/-- Do the tokens start with a lifetime? -/
def seesLifetime (tokens : Tokens) : Bool :=
  match expose tokens with
  | .punct '\'' .joint _ :: .ident _ _ :: _ => true
  | _ => false

/-- What follows the first token. A lifetime counts as one. -/
def second (tokens : Tokens) : Tokens :=
  match expose tokens with
  | .punct '\'' .joint _ :: .ident _ _ :: rest => rest
  | _ :: rest => rest
  | [] => []

/-- What follows the first two tokens. -/
def third (tokens : Tokens) : Tokens :=
  second (second tokens)

/-- Is there a literal, or the negative of a number? -/
def seesSignedLiteral (tokens : Tokens) : Bool :=
  seesLiteral tokens ||
    (sees "-" tokens &&
      match expose (second tokens) with
      | .literal text _ :: _ => (text.toList.head?).any Char.isDigit
      | _ => false)

/-- Do the tokens start with a field access or a method call, and not with a range? -/
def seesDot (tokens : Tokens) : Bool :=
  sees "." tokens && !sees ".." tokens

/-- Do the tokens start with a colon that does not begin the separator of a path? -/
def seesColon (tokens : Tokens) : Bool :=
  sees ":" tokens && !sees "::" tokens

/-- Do the tokens start with generic parameters, and not with a path relative to a type? -/
def seesParameters (tokens : Tokens) : Bool :=
  let first := second tokens
  let next := third tokens
  sees "<" tokens &&
    (sees ">" first || sees "#" first || seesWord "const" first ||
      ((seesLifetime first || seesName first) &&
        (seesAny [">", ",", "="] next || seesColon next)))

end Tokens

end MacroExpansion
