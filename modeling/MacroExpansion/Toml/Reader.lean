import MacroExpansion.Text.Quoted
import MacroExpansion.Toml.Value

/-!
# Reading configuration texts

A text is read line by line: assignments and headers, with comments and blank lines between them.
Anything that is not of this form, and any key or table that is defined twice, makes the whole text
unreadable.
-/

namespace MacroExpansion

namespace Toml

/-- A reader of characters that may fail. -/
abbrev Reader := StateT (List Char) Option

namespace Reader

variable {α : Type}

/-- The characters still to be read. -/
def ahead : Reader (List Char) := get

/-- Take a given text. -/
def exactly (text : List Char) : Reader Unit := fun input =>
  if text.isPrefixOf input then some ((), input.drop text.length) else none

/-- Take characters as long as a condition holds. -/
def takeWhile (condition : Char → Bool) : Reader (List Char) := fun input =>
  some (input.takeWhile condition, input.dropWhile condition)

/-- Pass over blanks in a line. -/
def blanks : Reader Unit := do
  let _ ← takeWhile fun c => c = ' ' || c = '\t'

/-- May the character stand in a comment or a literal? -/
def isPlain (c : Char) : Bool := c = '\t' || (' ' ≤ c && c ≠ '\x7f')

/-- Pass over an optional comment. -/
def comment : Reader Unit := do
  if (← ahead).head? = some '#' then
    let _ ← takeWhile isPlain

/-- Does a line end here? -/
def atLineEnd (input : List Char) : Bool :=
  match input with
  | [] => true
  | '\n' :: _ => true
  | '\r' :: '\n' :: _ => true
  | _ => false

/-- Pass over the end of a line. -/
def lineEnd : Reader Unit := fun input =>
  match input with
  | [] => some ((), [])
  | '\n' :: rest => some ((), rest)
  | '\r' :: '\n' :: rest => some ((), rest)
  | _ => none

/-- Pass over blanks, comments and line ends, at most the given number of lines. -/
def lines : Nat → Reader Unit
  | 0 => pure ()
  | bound + 1 => do
    blanks
    comment
    let input ← ahead
    if !input.isEmpty && atLineEnd input then
      lineEnd
      lines bound

/-- The value of hexadecimal digits. -/
def hexValue (digits : List Char) : Option Nat :=
  digits.foldlM (fun n c => (Quoted.hexDigit? c).map (16 * n + ·)) 0

/-- A character given by exactly so many hexadecimal digits. -/
def codePoint (count : Nat) : Reader Char := fun input =>
  let digits := input.take count
  if digits.length = count then
    ((hexValue digits).bind Quoted.codePoint?).map fun c => (c, input.drop count)
  else none

/-- The character behind a backslash. -/
def escape : Reader Char := fun input =>
  match input with
  | 'b' :: rest => some ('\x08', rest)
  | 't' :: rest => some ('\t', rest)
  | 'n' :: rest => some ('\n', rest)
  | 'f' :: rest => some ('\x0c', rest)
  | 'r' :: rest => some ('\r', rest)
  | '"' :: rest => some ('"', rest)
  | '\\' :: rest => some ('\\', rest)
  | 'u' :: rest => codePoint 4 rest
  | 'U' :: rest => codePoint 8 rest
  | _ => none

/-- The rest of a string in double quotes, its closing quote included. -/
def basicString : Nat → Reader (List Char)
  | 0 => failure
  | bound + 1 => do
    match ← ahead with
    | '"' :: rest =>
      set rest
      pure []
    | '\\' :: rest =>
      set rest
      let c ← escape
      return c :: (← basicString bound)
    | c :: rest =>
      if isPlain c then
        set rest
        return c :: (← basicString bound)
      else failure
    | [] => failure

/-- The rest of a string in single quotes, its closing quote included. -/
def literalString : Reader (List Char) := do
  let text ← takeWhile fun c => isPlain c && c ≠ '\''
  exactly ['\'']
  return text

/-- The quotes at the end of a string over several lines: the last three of at most five close it,
and those before them belong to it. -/
def closing (quote : Char) : Reader (Option (List Char)) := fun input =>
  let quotes := (input.takeWhile (· = quote)).length
  if quotes < 3 then some (none, input)
  else if quotes ≤ 5 then some (some (List.replicate (quotes - 3) quote), input.drop quotes)
  else none

/-- The rest of a string over several lines. Only in double quotes are there escapes, and a
backslash at the end of a line hides it with all blanks behind it. -/
def longString (quote : Char) : Nat → Reader (List Char)
  | 0 => failure
  | bound + 1 => do
    match ← closing quote with
    | some text => return text
    | none =>
      match ← ahead with
      | [] => failure
      | '\r' :: '\n' :: rest =>
        set rest
        return '\r' :: '\n' :: (← longString quote bound)
      | c :: rest =>
        if c = '\\' && quote = '"' then
          let after := rest.dropWhile fun d => d = ' ' || d = '\t'
          if !after.isEmpty && atLineEnd after then
            set (rest.dropWhile fun d => d = ' ' || d = '\t' || d = '\n' || d = '\r')
            longString quote bound
          else
            set rest
            let d ← escape
            return d :: (← longString quote bound)
        else if c = '\n' || isPlain c then
          set rest
          return c :: (← longString quote bound)
        else failure

/-- Pass over a line end right behind the opening quotes. -/
def firstLine : Reader Unit := fun input =>
  match input with
  | '\n' :: rest => some ((), rest)
  | '\r' :: '\n' :: rest => some ((), rest)
  | input => some ((), input)

/-- A string on one line. -/
def shortText : Reader String := do
  let input ← ahead
  match input with
  | '"' :: rest =>
    set rest
    return String.ofList (← basicString input.length)
  | '\'' :: rest =>
    set rest
    return String.ofList (← literalString)
  | _ => failure

/-- A string. -/
def text : Reader String := do
  let input ← ahead
  match input with
  | '"' :: '"' :: '"' :: rest =>
    set rest
    firstLine
    return String.ofList (← longString '"' input.length)
  | '\'' :: '\'' :: '\'' :: rest =>
    set rest
    firstLine
    return String.ofList (← longString '\'' input.length)
  | _ => shortText

/-- May the character stand in a key without quotes? -/
def isBare (c : Char) : Bool :=
  c.toNat < 128 && (c.isAlphanum || c = '_' || c = '-')

/-- A key without dots. -/
def simpleKey : Reader String := do
  match (← ahead).head? with
  | some '"' => shortText
  | some '\'' => shortText
  | _ =>
    let name ← takeWhile isBare
    if name.isEmpty then failure else return String.ofList name

/-- A key with dots, at most the given number of parts. -/
def dottedKey : Nat → Reader (List String)
  | 0 => failure
  | bound + 1 => do
    let first ← simpleKey
    let input ← ahead
    blanks
    match ← ahead with
    | '.' :: rest =>
      set rest
      blanks
      return first :: (← dottedKey bound)
    | _ =>
      set input
      return [first]

/-- A key: the path in front of the last dot, and the name behind it. -/
def key : Reader (List String × String) := do
  let parts ← dottedKey ((← ahead).length + 1)
  match parts.getLast? with
  | some last => return (parts.dropLast, last)
  | none => failure

end Reader

namespace Number

/-- Are these digits with single separators between them? -/
def isDigits (isDigit : Char → Bool) : List Char → Bool
  | [] => false
  | [c] => isDigit c
  | c :: '_' :: rest => isDigit c && isDigits isDigit rest
  | c :: rest => isDigit c && isDigits isDigit rest

/-- Drop a sign. -/
def unsigned : List Char → List Char
  | '+' :: rest => rest
  | '-' :: rest => rest
  | rest => rest

/-- Are these the digits of a decimal integer? Only zero itself begins with one. -/
def isWhole (digits : List Char) : Bool :=
  isDigits Char.isDigit digits && (digits = ['0'] || digits.head? ≠ some '0')

/-- The value of digits in a base. -/
def valueIn (base : Nat) (digits : List Char) : Nat :=
  digits.foldl (fun n c => if c = '_' then n else base * n + (Quoted.hexDigit? c).getD 0) 0

/-- The first magnitude that does not fit into 63 bits. -/
def limit : Nat := 0x8000000000000000

/-- Digits in a marked base that fit into 63 bits. -/
def marked? (base : Nat) (digits : List Char) : Option Int :=
  let value := valueIn base digits
  if isDigits (fun c => (Quoted.hexDigit? c).any (· < base)) digits && value < limit then
    some value
  else none

/-- An integer of 64 bits. -/
def integer? (word : List Char) : Option Int :=
  match word with
  | '0' :: 'x' :: digits => marked? 16 digits
  | '0' :: 'o' :: digits => marked? 8 digits
  | '0' :: 'b' :: digits => marked? 2 digits
  | _ =>
    let digits := unsigned word
    let value := valueIn 10 digits
    if isWhole digits then
      if word.head? = some '-' then if value ≤ limit then some (-value) else none
      else if value < limit then some value else none
    else none

/-- Is this the exponent of a float, from behind its letter on? -/
def isExponent (digits : List Char) : Bool := isDigits Char.isDigit (unsigned digits)

/-- Is this a float? -/
def isFloat (word : List Char) : Bool :=
  let digits := unsigned word
  if digits = ['i', 'n', 'f'] || digits = ['n', 'a', 'n'] then true
  else
    let whole := digits.takeWhile fun c => c.isDigit || c = '_'
    isWhole whole &&
      match digits.drop whole.length with
      | '.' :: rest =>
        let fraction := rest.takeWhile fun c => c.isDigit || c = '_'
        isDigits Char.isDigit fraction &&
          match rest.drop fraction.length with
          | [] => true
          | c :: rest => (c = 'e' || c = 'E') && isExponent rest
      | c :: rest => (c = 'e' || c = 'E') && isExponent rest
      | [] => false

end Number

namespace DateTime

/-- The number that exactly so many digits write. -/
def digits? (count : Nat) (text : List Char) : Option (Nat × List Char) :=
  let digits := text.take count
  if digits.length = count && digits.all Char.isDigit then
    some (Number.valueIn 10 digits, text.drop count)
  else none

/-- The number of days of a month. -/
def monthLength (year month : Nat) : Nat :=
  if month = 2 then
    if (year % 4 = 0 && year % 100 ≠ 0) || year % 400 = 0 then 29 else 28
  else if month = 4 || month = 6 || month = 9 || month = 11 then 30
  else 31

/-- What follows a date. -/
def date? (text : List Char) : Option (List Char) := do
  let (year, rest) ← digits? 4 text
  let '-' :: rest := rest | none
  let (month, rest) ← digits? 2 rest
  let '-' :: rest := rest | none
  let (day, rest) ← digits? 2 rest
  if 1 ≤ month && month ≤ 12 && 1 ≤ day && day ≤ monthLength year month then some rest else none

/-- What follows a time of the day. -/
def time? (text : List Char) : Option (List Char) := do
  let (hour, rest) ← digits? 2 text
  let ':' :: rest := rest | none
  let (minute, rest) ← digits? 2 rest
  let ':' :: rest := rest | none
  let (second, rest) ← digits? 2 rest
  if 24 ≤ hour || 60 ≤ minute || 60 < second then none
  else
    match rest with
    | '.' :: fraction =>
      if fraction.head?.any Char.isDigit then some (fraction.dropWhile Char.isDigit) else none
    | rest => some rest

/-- Is this an offset from universal time, or nothing? -/
def isOffset : List Char → Bool
  | [] => true
  | ['Z'] => true
  | ['z'] => true
  | sign :: rest =>
    (sign = '+' || sign = '-') &&
      match rest with
      | [a, b, ':', c, d] =>
        [a, b, c, d].all Char.isDigit && Number.valueIn 10 [a, b] < 24 &&
          Number.valueIn 10 [c, d] < 60
      | _ => false

/-- Is this a date, a time or both? -/
def isDateTime (word : List Char) : Bool :=
  match date? word with
  | some [] => true
  | some (c :: rest) =>
    (c = 'T' || c = 't' || c = ' ') && ((time? rest).any isOffset)
  | none => time? word == some []

end DateTime

namespace Reader

/-- May the character stand in a number, a truth value or a date? -/
def isWord (c : Char) : Bool :=
  c.toNat < 128 && (c.isAlphanum || c = '+' || c = '-' || c = '_' || c = '.' || c = ':')

/-- A number, a truth value or a date. A blank may stand between a date and a time. -/
def scalar : Reader Value := do
  let word ← takeWhile isWord
  let word ← do
    let input ← ahead
    match DateTime.date? word, input with
    | some [], ' ' :: rest =>
      if rest.head?.any Char.isDigit then
        set rest
        let time ← takeWhile isWord
        pure (word ++ ' ' :: time)
      else pure word
    | _, _ => pure word
  if word = ['t', 'r', 'u', 'e'] then return .boolean true
  else if word = ['f', 'a', 'l', 's', 'e'] then return .boolean false
  else
    match Number.integer? word with
    | some n => return .integer n
    | none =>
      if Number.isFloat word then return .float (String.ofList word)
      else if DateTime.isDateTime word then return .dateTime (String.ofList word)
      else failure

/-- The elements of an array up to its closing bracket, with values read by `value`. -/
def elements (value : Reader Value) : Nat → Reader (List Value)
  | 0 => failure
  | bound + 1 => do
    lines ((← ahead).length + 1)
    match ← ahead with
    | ']' :: rest =>
      set rest
      pure []
    | _ =>
      let first ← value
      lines ((← ahead).length + 1)
      match ← ahead with
      | ',' :: rest =>
        set rest
        return first :: (← elements value bound)
      | ']' :: rest =>
        set rest
        return [first]
      | _ => failure

/-- An assignment, with its value read by `value`. -/
def assignment (value : Reader Value) : Reader Assignment := do
  let (path, name) ← key
  blanks
  exactly ['=']
  blanks
  return ⟨path, name, ← value⟩

/-- The assignments of an inline table up to its closing brace. No comma may stand at the end. -/
def inlineAssignments (value : Reader Value) : Nat → Reader (List Assignment)
  | 0 => failure
  | bound + 1 => do
    blanks
    let first ← assignment value
    blanks
    match ← ahead with
    | ',' :: rest =>
      set rest
      return first :: (← inlineAssignments value bound)
    | '\x7d' :: rest =>
      set rest
      return [first]
    | _ => failure

/-- The content of an inline table from behind its opening brace on. -/
def inlineTable (value : Reader Value) : Reader Value := do
  blanks
  match ← ahead with
  | '\x7d' :: rest =>
    set rest
    return .inlineTable false []
  | input =>
    let assignments ← inlineAssignments value (input.length + 1)
    match assignments.foldlM
      (fun entries a => Entries.putInline? a.key a.value a.path entries) [] with
    | some entries => return .inlineTable false entries
    | none => failure

/-- A value; values nest at most so deep. -/
def value : Nat → Reader Value
  | 0 => failure
  | depth + 1 => do
    match ← ahead with
    | '"' :: _ => return .string (← text)
    | '\'' :: _ => return .string (← text)
    | '[' :: rest =>
      set rest
      return .array (← elements (value depth) (rest.length + 1))
    | '\x7b' :: rest =>
      set rest
      inlineTable (value depth)
    | _ => scalar

/-- A line of a document. -/
inductive Line where
  | header (path : List String) (key : String) (row : Bool)
  | assignment (assignment : Assignment)

/-- A header from its opening bracket on. -/
def header : Reader Line := do
  exactly ['[']
  let row := (← ahead).head? = some '['
  if row then exactly ['[']
  blanks
  let (path, name) ← key
  blanks
  exactly [']']
  if row then exactly [']']
  return .header path name row

/-- The lines of a document that say something, at most the given number of lines. -/
def document : Nat → Reader (List Line)
  | 0 => failure
  | bound + 1 => do
    blanks
    let input ← ahead
    if input.isEmpty then pure []
    else if atLineEnd input || input.head? = some '#' then
      comment
      lineEnd
      document bound
    else
      let line ←
        if input.head? = some '[' then header
        else do pure (Line.assignment (← assignment (value input.length)))
      blanks
      comment
      lineEnd
      return line :: (← document bound)

end Reader

/-- The assignments in front of the first header, and the sections. -/
def sections : List Reader.Line → List Assignment × List Section
  | [] => ([], [])
  | .assignment a :: rest => (a :: (sections rest).1, (sections rest).2)
  | .header path key row :: rest =>
    ([], ⟨path, key, row, (sections rest).1⟩ :: (sections rest).2)

/-- Read a configuration text. -/
def ofText? (text : String) : Option Value := do
  let chars := text.toList
  let chars := if chars.head? = some '\uFEFF' then chars.drop 1 else chars
  let (lines, _) ← Reader.document (chars.length + 1) chars
  let (top, headers) := sections lines
  let root ← Entries.assign? [] top
  let entries ← headers.foldlM (fun entries header => header.addTo? entries) root
  return .table .explicit entries

end Toml

end MacroExpansion
