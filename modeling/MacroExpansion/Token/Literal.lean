import MacroExpansion.Text.Identifier
import MacroExpansion.Text.Quoted

/-!
# Literals

Where a literal ends. Each function takes the text from the literal's first character on and gives
what follows it, or nothing if no literal of its kind stands there. Every literal may carry an
identifier as a suffix; the suffix belongs to the literal and is not interpreted.

`Literal.isInteger` tells integers from the other literals by their text: digits in a base, without
a point or an exponent, whatever the suffix says.
-/

namespace MacroExpansion

namespace Literal

/-- What follows an optional identifier. -/
def afterSuffix (text : List Char) : List Char :=
  match Identifier.split? text with
  | some (_, rest) => rest
  | none => text

/-- What follows the given text, if the input begins with it. -/
def after? : List Char → List Char → Option (List Char)
  | [], input => some input
  | c :: cs, d :: input => if c = d then after? cs input else none
  | _ :: _, [] => none

/-- The number of hash signs in front of a raw text, and what follows its opening quote. -/
def rawFence? : Nat → List Char → Option (Nat × List Char)
  | hashes, '"' :: rest => if hashes ≤ 255 then some (hashes, rest) else none
  | hashes, '#' :: rest => rawFence? (hashes + 1) rest
  | _, _ => none

/-- What follows the closing quote and its hash signs. A carriage return needs a line feed. -/
def afterRaw? (kind : Quoted.Kind) (hashes : Nat) : List Char → Option (List Char)
  | [] => none
  | c :: rest =>
    if c = '"' && (rest.take hashes == List.replicate hashes '#') then some (rest.drop hashes)
    else if c = '\r' && rest.head? ≠ some '\n' then none
    else if kind = .bytes && 128 ≤ c.toNat then none
    else if kind = .terminated && c = '\x00' then none
    else afterRaw? kind hashes rest

/-- A raw text from its hash signs on. -/
def raw? (kind : Quoted.Kind) (text : List Char) : Option (List Char) :=
  (rawFence? 0 text).bind fun (hashes, rest) => (afterRaw? kind hashes rest).map afterSuffix

/-- A text in quotes from behind its opening quote on. -/
def cooked? (kind : Quoted.Kind) (text : List Char) : Option (List Char) :=
  (Quoted.afterQuote? kind .text text).map afterSuffix

/-- Strings, byte strings and zero-terminated strings, cooked or raw. -/
def string? : List Char → Option (List Char)
  | '"' :: rest => cooked? .text rest
  | 'r' :: rest => raw? .text rest
  | 'b' :: '"' :: rest => cooked? .bytes rest
  | 'b' :: 'r' :: rest => raw? .bytes rest
  | 'c' :: '"' :: rest => cooked? .terminated rest
  | 'c' :: 'r' :: rest => raw? .terminated rest
  | _ => none

/-- One character or one escape. -/
def afterCharacter? (kind : Quoted.Kind) : List Char → Option (List Char)
  | '\\' :: rest => Quoted.afterEscape? kind .escape rest
  | c :: rest => if kind = .bytes && 128 ≤ c.toNat then none else some rest
  | [] => none

/-- A character between single quotes, from behind the first of them on. -/
def single? (kind : Quoted.Kind) (text : List Char) : Option (List Char) :=
  match afterCharacter? kind text with
  | some ('\'' :: rest) => some (afterSuffix rest)
  | _ => none

/-- Characters and bytes. -/
def character? : List Char → Option (List Char)
  | 'b' :: '\'' :: rest => single? .bytes rest
  | '\'' :: rest => single? .text rest
  | _ => none

/-- A decimal digit or a separator between digits. -/
def isDigitOrGap (c : Char) : Bool := c.isDigit || c == '_'

/-- What follows an optional suffix, provided the literal ends there. -/
def closeNumber? (text : List Char) : Option (List Char) :=
  let rest := afterSuffix text
  if rest.head?.any Identifier.isContinue then none else some rest

/-- The digits of an exponent behind its sign, at least one of them a digit. -/
def exponentDigits? (text : List Char) : Option (List Char) :=
  if (text.takeWhile isDigitOrGap).any Char.isDigit then some (text.dropWhile isDigitOrGap)
  else none

/-- What follows the letter of an exponent. Separators may stand before the sign. -/
def exponent? (text : List Char) : Option (List Char) :=
  let early := text.takeWhile isDigitOrGap
  if early.any Char.isDigit then some (text.dropWhile isDigitOrGap)
  else
    match text.dropWhile isDigitOrGap with
    | '+' :: rest => exponentDigits? rest
    | '-' :: rest => exponentDigits? rest
    | _ => none

/-- What follows the point of a float: more digits, and an exponent if there is one. -/
def afterPoint (text : List Char) : List Char :=
  let rest := text.dropWhile isDigitOrGap
  match rest with
  | c :: tail => if c = 'e' || c = 'E' then (exponent? tail).getD rest else rest
  | [] => []

/-- The digits of a float: a point that is followed neither by a point nor by a name, an exponent,
or both. -/
def floatDigits? : List Char → Option (List Char)
  | [] => none
  | c :: cs =>
    if c.isDigit then
      match cs.dropWhile isDigitOrGap with
      | '.' :: rest =>
        if rest.head?.any (fun d => d == '.' || Identifier.isStart d) then none
        else some (afterPoint rest)
      | 'e' :: rest => exponent? rest
      | 'E' :: rest => exponent? rest
      | _ => none
    else none

/-- Floats. -/
def float? (text : List Char) : Option (List Char) :=
  (floatDigits? text).bind closeNumber?

/-- What follows the digits of an integer. A decimal digit too large for the base spoils the
literal, a letter too large for it begins the suffix. -/
def digits? (base : Nat) (empty : Bool) : List Char → Option (List Char)
  | [] => if empty then none else some []
  | c :: rest =>
    if c.isDigit then
      if c.toNat - '0'.toNat < base then digits? base false rest else none
    else if c = '_' then
      if empty && base = 10 then none else digits? base empty rest
    else if (Quoted.hexDigit? c).any (· < base) then digits? base false rest
    else if empty then none else some (c :: rest)

/-- Integers: decimal, or in one of the three marked bases. -/
def integer? (text : List Char) : Option (List Char) :=
  let rest :=
    match text with
    | '0' :: 'x' :: digits => digits? 16 true digits
    | '0' :: 'o' :: digits => digits? 8 true digits
    | '0' :: 'b' :: digits => digits? 2 true digits
    | digits => digits? 10 true digits
  rest.bind closeNumber?

/-- What follows the literal that the text begins with. -/
def rest? (text : List Char) : Option (List Char) :=
  string? text <|> character? text <|> float? text <|> integer? text

/-- Does a literal with this text denote an integer? The letter of an exponent counts only if
digits make it one. -/
def isInteger (text : String) : Bool :=
  match text.toList with
  | '0' :: 'x' :: _ => true
  | '0' :: 'o' :: _ => true
  | '0' :: 'b' :: _ => true
  | c :: cs =>
    c.isDigit &&
      match cs.dropWhile isDigitOrGap with
      | '.' :: _ => false
      | 'e' :: rest => !isExponent rest
      | 'E' :: rest => !isExponent rest
      | _ => true
  | [] => false
where
  /-- Do these characters make the letter before them an exponent? -/
  isExponent (rest : List Char) : Bool :=
    match rest.dropWhile isDigitOrGap with
    | '+' :: _ => true
    | '-' :: _ => true
    | _ => (rest.takeWhile isDigitOrGap).any Char.isDigit

/-- The value of an integer literal without a suffix. -/
def value? : List Char → Option Nat
  | '0' :: 'x' :: digits => digitsValue 16 digits
  | '0' :: 'o' :: digits => digitsValue 8 digits
  | '0' :: 'b' :: digits => digitsValue 2 digits
  | digits => digitsValue 10 digits
where
  /-- The value of digits in a base; separators do not count. -/
  digitsValue (base : Nat) (digits : List Char) : Option Nat :=
    digits.foldlM (fun n c =>
      if c = '_' then some n
      else (Quoted.hexDigit? c).bind fun d => if d < base then some (base * n + d) else none) 0

open Quoted in
/-- A further digit shifts the value of the digits before it. -/
theorem digitsValue_step {c : Char} {d n : Nat} (digit : hexDigit? c = some d) :
    (if c = '_' then some n
      else (hexDigit? c).bind fun d => if d < 16 then some (16 * n + d) else none) =
      some (16 * n + d) := by
  rw [if_neg (ne_underscore_of_hexDigit? digit), digit, Option.bind_some,
    if_pos (hexDigit?_lt digit)]

end Literal

end MacroExpansion
