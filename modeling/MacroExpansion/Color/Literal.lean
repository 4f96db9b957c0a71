import MacroExpansion.Decimal.Layout
import MacroExpansion.Token.Literal

/-!
# Color literals

A color literal is `0x` and exactly six hexadecimal digits, two for each channel. A channel is its
byte over 255. Before it is written into code a channel is rounded to hundredths, halves away from
zero, and printed with as few digits as it needs.
-/

namespace MacroExpansion

/-- The channels of a color, each between zero and one. -/
structure Rgb where
  red : Binary64
  green : Binary64
  blue : Binary64
deriving DecidableEq, Repr, Inhabited

namespace Channel

/-- The channel of a byte. -/
def ofByte (byte : Nat) : Binary64 := Binary64.ofRatio false byte 255

/-- A channel in hundredths. -/
def rounded (channel : Binary64) : Binary64 := ((channel.mulNat 100).round).divNat 100

/-- The text of a channel in hundredths. -/
def text (channel : Binary64) : String := Layout.display.text (rounded channel)

/-- The literal of a channel: its text, with a fraction even if it is whole. -/
def literal (channel : Binary64) : String :=
  let text := text channel
  if text.toList.contains '.' then text else text ++ ".0"

end Channel

namespace Rgb

/-- The channels of three bytes. -/
def ofBytes (red green blue : Nat) : Rgb :=
  ⟨Channel.ofByte red, Channel.ofByte green, Channel.ofByte blue⟩

/-- The byte that two hexadecimal digits write. -/
def byte? (high low : Char) : Option Nat := do
  return 16 * (← Quoted.hexDigit? high) + (← Quoted.hexDigit? low)

/-- The three bytes of a color literal. -/
def bytes? : List Char → Option (Nat × Nat × Nat)
  | ['0', 'x', a, b, c, d, e, f] => do
    let red ← byte? a b
    let green ← byte? c d
    let blue ← byte? e f
    return (red, green, blue)
  | _ => none

theorem byte?_eq_some {high low : Char} {h l : Nat} (first : Quoted.hexDigit? high = some h)
    (second : Quoted.hexDigit? low = some l) : byte? high low = some (16 * h + l) := by
  simp [byte?, first, second]

/-- Six digits write three bytes, the digits of their number in base 256. -/
theorem exists_bytes_of_six {digits : List Char} (six : digits.length = 6)
    (hex : ∀ c ∈ digits, ∃ d, Quoted.hexDigit? c = some d) :
    ∃ red green blue, bytes? ('0' :: 'x' :: digits) = some (red, green, blue) ∧
      Literal.value?.digitsValue 16 digits = some (65536 * red + 256 * green + blue) ∧
      red < 256 ∧ green < 256 ∧ blue < 256 := by
  obtain ⟨a, b, c, d, e, f, rfl⟩ : ∃ a b c d e f, digits = [a, b, c, d, e, f] := by
    match digits, six with
    | [a, b, c, d, e, f], _ => exact ⟨a, b, c, d, e, f, rfl⟩
  simp only [List.forall_mem_cons] at hex
  obtain ⟨⟨a', ha⟩, ⟨b', hb⟩, ⟨c', hc⟩, ⟨d', hd⟩, ⟨e', he⟩, ⟨f', hf⟩, -⟩ := hex
  have lt_a := Quoted.hexDigit?_lt ha
  have lt_b := Quoted.hexDigit?_lt hb
  have lt_c := Quoted.hexDigit?_lt hc
  have lt_d := Quoted.hexDigit?_lt hd
  have lt_e := Quoted.hexDigit?_lt he
  have lt_f := Quoted.hexDigit?_lt hf
  refine ⟨16 * a' + b', 16 * c' + d', 16 * e' + f', ?_, ?_, by omega, by omega, by omega⟩
  · simp [bytes?, byte?_eq_some ha hb, byte?_eq_some hc hd, byte?_eq_some he hf]
  · simp only [Literal.value?.digitsValue, List.foldlM_cons, List.foldlM_nil,
      Literal.digitsValue_step ha, Literal.digitsValue_step hb, Literal.digitsValue_step hc,
      Literal.digitsValue_step hd, Literal.digitsValue_step he, Literal.digitsValue_step hf,
      Option.bind_eq_bind, Option.bind_some, Option.pure_def, Option.some.injEq]
    omega

/-- A mask of eight bits, moved down to the lowest place. -/
theorem and_mask_shiftRight (n place : Nat) :
    (n &&& 255 <<< place) >>> place = (n >>> place) % 256 := by
  rw [Nat.shiftRight_and_distrib, Nat.shiftLeft_shiftRight]
  exact Nat.and_two_pow_sub_one_eq_mod (n >>> place) 8

/-- The bytes of a number, cut out by masks. -/
theorem masks_of_bytes {red green blue number : Nat} (hr : red < 256) (hg : green < 256)
    (hb : blue < 256) (whole : 65536 * red + 256 * green + blue = number) :
    (number &&& 0xFF0000) >>> 16 = red ∧ (number &&& 0x00FF00) >>> 8 = green ∧
      number &&& 0x0000FF = blue := by
  have first := and_mask_shiftRight number 16
  have second := and_mask_shiftRight number 8
  have third := and_mask_shiftRight number 0
  simp only [Nat.reduceShiftLeft, Nat.shiftRight_eq_div_pow, Nat.reducePow] at first second third ⊢
  omega

/-- The pairs of digits give the bytes that masks and shifts cut out of the number of all digits. -/
theorem bytes?_eq_masks {digits : List Char} (six : digits.length = 6)
    (hex : ∀ c ∈ digits, ∃ d, Quoted.hexDigit? c = some d) :
    bytes? ('0' :: 'x' :: digits) = (Literal.value?.digitsValue 16 digits).map fun number =>
      ((number &&& 0xFF0000) >>> 16, (number &&& 0x00FF00) >>> 8, number &&& 0x0000FF) := by
  obtain ⟨red, green, blue, read, value, hr, hg, hb⟩ := exists_bytes_of_six six hex
  obtain ⟨first, second, third⟩ := masks_of_bytes hr hg hb rfl
  rw [read, value, Option.map_some, first, second, third]

/-- The channels of a color literal. -/
def ofLiteral? (text : String) : Option Rgb :=
  (bytes? text.toList).map fun (red, green, blue) => ofBytes red green blue

/-- The channels in order. -/
def channels (rgb : Rgb) : List Binary64 := [rgb.red, rgb.green, rgb.blue]

/-- The channels as they are shown to a programmer. -/
def debug (rgb : Rgb) : String :=
  "Rgb \x7b red: " ++ Layout.debug.text rgb.red ++ ", green: " ++ Layout.debug.text rgb.green ++
    ", blue: " ++ Layout.debug.text rgb.blue ++ " \x7d"

end Rgb

end MacroExpansion
