import MacroExpansion.Text.Unprintable

/-!
# Quoted text

Text inside double quotes. Writing it spells the two characters that have a meaning of their own,
the common controls, and every character without a visible form; all else stands for itself.
Reading accepts every spelling of the language: the short escapes, two hexadecimal digits below
128, a code point in braces, a line feed that a backslash hides together with the blanks after it.
-/

namespace MacroExpansion

namespace Quoted

/-- How a zero character is spelled. A literal must not let a digit that follows run into the
escape; text that is only shown has no such reader. -/
inductive Style where
  | literal
  | shown
deriving DecidableEq, Repr

/-- Has the character no visible form? -/
def isUnprintable (c : Char) : Bool :=
  if c.toNat < 128 then c.toNat < 32 || c.toNat == 127 else Unprintable.ranges.has c

/-- Would the character continue an octal number? -/
def isOctal (c : Char) : Bool := '0' ≤ c && c ≤ '7'

/-- The spelling of a code point by its number. -/
def byNumber (c : Char) : List Char :=
  ['\\', 'u', '\x7b'] ++ Nat.toDigits 16 c.toNat ++ ['\x7d']

/-- The spelling of one character in front of the text `rest`. -/
def spell (style : Style) (c : Char) (rest : List Char) : List Char :=
  if c = '\x00' then
    if style = .literal && rest.head?.any isOctal then ['\\', 'x', '0', '0'] else ['\\', '0']
  else if c = '\t' then ['\\', 't']
  else if c = '\n' then ['\\', 'n']
  else if c = '\r' then ['\\', 'r']
  else if c = '\\' then ['\\', '\\']
  else if c = '"' then ['\\', '"']
  else if isUnprintable c then byNumber c
  else [c]

/-- The text between the quotes. -/
def encode (style : Style) : List Char → List Char
  | [] => []
  | c :: rest => spell style c rest ++ encode style rest

@[simp] theorem encode_nil (style : Style) : encode style [] = [] := rfl

@[simp] theorem encode_cons (style : Style) (c : Char) (rest : List Char) :
    encode style (c :: rest) = spell style c rest ++ encode style rest := rfl

/-- A text in quotes. -/
def quote (style : Style) (text : String) : String :=
  String.ofList ('"' :: encode style text.toList ++ ['"'])

/-- The value of a hexadecimal digit of either case. -/
def hexDigit? (c : Char) : Option Nat :=
  if '0' ≤ c && c ≤ '9' then some (c.toNat - '0'.toNat)
  else if 'a' ≤ c && c ≤ 'f' then some (c.toNat - 'a'.toNat + 10)
  else if 'A' ≤ c && c ≤ 'F' then some (c.toNat - 'A'.toNat + 10)
  else none

theorem hexDigit?_lt {c : Char} {d : Nat} (digit : hexDigit? c = some d) : d < 16 := by
  simp only [hexDigit?, Bool.and_eq_true, decide_eq_true_eq, Char.le_def,
    UInt32.le_iff_toNat_le] at digit
  have zero : '0'.toNat = 48 := rfl
  have small : 'a'.toNat = 97 := rfl
  have large : 'A'.toNat = 65 := rfl
  have nine : '9'.val.toNat = 57 := rfl
  have lastSmall : 'f'.val.toNat = 102 := rfl
  have lastLarge : 'F'.val.toNat = 70 := rfl
  have value : c.toNat = c.val.toNat := rfl
  split at digit
  · obtain rfl := Option.some.inj digit
    omega
  · split at digit
    · obtain rfl := Option.some.inj digit
      omega
    · split at digit
      · obtain rfl := Option.some.inj digit
        omega
      · cases digit

theorem ne_underscore_of_hexDigit? {c : Char} {d : Nat} (digit : hexDigit? c = some d) :
    c ≠ '_' := by
  rintro rfl
  exact nomatch (rfl : hexDigit? '_' = none).symm.trans digit

/-- The character with the given number, if there is one. -/
def codePoint? (n : Nat) : Option Char :=
  if h : n.isValidChar then some (Char.ofNatAux n h) else none

/-- What a reader is in the middle of. -/
inductive Reading where
  /-- Plain text. -/
  | text
  /-- An escape whose backslash has been read. -/
  | escape
  /-- The first of two hexadecimal digits. -/
  | byteHigh
  /-- The second of two hexadecimal digits, after the first. -/
  | byteLow (high : Nat)
  /-- The brace in front of a number. -/
  | brace
  /-- A number in braces with this value and this many digits so far. -/
  | number (value digits : Nat)
  /-- The line feed that a carriage return announces, and whether a backslash hides it. -/
  | lineFeed (hidden : Bool)
  /-- The blanks after a hidden line feed. -/
  | blanks
deriving DecidableEq, Repr

/-- What a quoted text is made of. -/
inductive Kind where
  /-- Characters. -/
  | text
  /-- Bytes: characters outside ASCII have no place, and no escape names one. -/
  | bytes
  /-- Characters before a final zero, so that no zero may stand among them. -/
  | terminated
deriving DecidableEq, Repr

/-- A character has been found out; plain text follows. -/
def found (kind : Kind) (c : Char) : Option (Reading × List Char) :=
  if kind = .terminated && c = '\x00' then none else some (.text, [c])

/-- Plain text: what one character of it stands for. -/
def readText (kind : Kind) (c : Char) : Option (Reading × List Char) :=
  if c = '\\' then some (.escape, [])
  else if c = '\r' then some (.lineFeed false, [])
  else if c = '"' then none
  else if kind = .bytes && 128 ≤ c.toNat then none
  else found kind c

/-- What the character after a backslash stands for. -/
def readEscape (kind : Kind) (c : Char) : Option (Reading × List Char) :=
  if c = 'n' then found kind '\n'
  else if c = 'r' then found kind '\r'
  else if c = 't' then found kind '\t'
  else if c = '0' then found kind '\x00'
  else if c = '\\' || c = '\'' || c = '"' then found kind c
  else if c = 'x' then some (.byteHigh, [])
  else if c = 'u' then if kind = .bytes then none else some (.brace, [])
  else if c = '\n' then some (.blanks, [])
  else if c = '\r' then some (.lineFeed true, [])
  else none

/-- One more character of a number in braces: a digit, a separator after the first digit, or the
closing brace. A number has at most six digits and names a character. -/
def readNumber (kind : Kind) (value digits : Nat) (c : Char) : Option (Reading × List Char) :=
  if c = '\x7d' then
    if digits = 0 then none else (codePoint? value).bind (found kind)
  else if c = '_' then
    if digits = 0 then none else some (.number value digits, [])
  else
    (hexDigit? c).bind fun d =>
      if digits < 6 then some (.number (16 * value + d) (digits + 1), []) else none

/-- Read one character: what is read next, and what has been found out. Two hexadecimal digits name
a character only below 128, and any byte where bytes are meant. -/
def read (kind : Kind) : Reading → Char → Option (Reading × List Char)
  | .text, c => readText kind c
  | .escape, c => readEscape kind c
  | .byteHigh, c =>
    (hexDigit? c).bind fun d => if kind = .text && 8 ≤ d then none else some (.byteLow d, [])
  | .byteLow high, c => (hexDigit? c).bind fun d => found kind (Char.ofNat (16 * high + d))
  | .brace, c => if c = '\x7b' then some (.number 0 0, []) else none
  | .number value digits, c => readNumber kind value digits c
  | .lineFeed hidden, c =>
    if c = '\n' then some (if hidden then (.blanks, []) else (.text, ['\n'])) else none
  | .blanks, c =>
    if c = ' ' || c = '\t' || c = '\n' then some (.blanks, [])
    else if c = '\r' then some (.lineFeed true, [])
    else readText kind c

namespace Reading

/-- May quoted text end here, with no escape open? -/
def mayEnd : Reading → Bool
  | text => true
  | blanks => true
  | _ => false

end Reading

/-- Read on to the end. -/
def decodeFrom (kind : Kind) (reading : Reading) : List Char → Option (List Char)
  | [] => if reading.mayEnd then some [] else none
  | c :: rest =>
    (read kind reading c).bind fun (next, chars) => (decodeFrom kind next rest).map (chars ++ ·)

/-- The text that the characters between two quotes stand for, or nothing if they are not the
inside of a quoted text. -/
def decode (inside : List Char) : Option (List Char) :=
  decodeFrom .text .text inside

/-- The text a quoted text stands for. -/
def unquote? (quoted : String) : Option String :=
  match quoted.toList with
  | '"' :: rest =>
    if rest.getLast? = some '"' then (decode rest.dropLast).map String.ofList else none
  | _ => none

/-- What follows the closing quote of a text whose opening quote has been read. -/
def afterQuote? (kind : Kind) (reading : Reading) : List Char → Option (List Char)
  | [] => none
  | c :: rest =>
    if c = '"' && reading.mayEnd then some rest
    else (read kind reading c).bind fun (next, _) => afterQuote? kind next rest

/-- What follows a single escape whose backslash has been read, provided it names a character. -/
def afterEscape? (kind : Kind) (reading : Reading) : List Char → Option (List Char)
  | [] => none
  | c :: rest =>
    (read kind reading c).bind fun (next, _) =>
      if next = .text then some rest
      else if next = .blanks || next = .lineFeed true then none
      else afterEscape? kind next rest

end Quoted

end MacroExpansion
