import MacroExpansion.Decimal.Binary64

/-!
# The shortest decimal

The fewest decimal digits that read back as a given number, and of those with that many digits the
nearest to it. A decimal reads back if it lies between the midpoints to the two neighbours, the
midpoints included when the significand is even. For each count of digits only the two points of
the decimal grid around the number are tried: if any point of the grid reads back, one of them does.
-/

namespace MacroExpansion

/-- A positive decimal: digits that mean `digits * 10 ^ exponent`. -/
structure Decimal where
  digits : Nat
  exponent : Int
deriving DecidableEq, Repr

namespace Decimal

/-- Drop the zeros at the end, at most the given number of them. -/
def trim : Nat → Decimal → Decimal
  | 0, d => d
  | bound + 1, d =>
    if d.digits ≠ 0 && d.digits % 10 = 0 then trim bound ⟨d.digits / 10, d.exponent + 1⟩ else d

/-- The ratio `num / (den * 10 ^ exponent)` as two natural numbers. -/
def scaled (num den : Nat) (exponent : Int) : Nat × Nat :=
  match exponent with
  | .ofNat n => (num, den * Nat.pow 10 n)
  | .negSucc n => (num * Nat.pow 10 (n + 1), den)

/-- The number of decimal digits. -/
def length (n : Nat) : Nat := (Nat.toDigits 10 n).length

/-- The power of ten just below a positive ratio. -/
def magnitude (num den : Nat) : Int :=
  let guess : Int := (length num : Int) - length den
  let (n, d) := scaled num den guess
  if n < d then guess - 1 else guess

/-- The numbers that read back as `significand * 2 ^ exponent`, in units of `2 ^ (exponent - 2)`:
the lower and the upper end. The neighbour below a power of two is nearer. -/
def bounds (significand : Nat) (exponent : Int) : Nat × Nat :=
  let low := if significand = Binary64.leadingBit && Binary64.minExponent < exponent then 1 else 2
  (4 * significand - low, 4 * significand + 2)

/-- Does the decimal lie between the ends? All of them are in the same units. -/
def readsBack (significand : Nat) (exponent : Int) (d : Decimal) : Bool :=
  let (low, high) := bounds significand exponent
  -- compare `d.digits * 10 ^ d.exponent` with `end * 2 ^ (exponent - 2)`
  let (unitNum, unitDen) := Binary64.ratio 1 (exponent - 2)
  let (num, den) := scaled unitNum unitDen d.exponent
  let value := d.digits * den
  if significand % 2 = 0 then low * num ≤ value && value ≤ high * num
  else low * num < value && value < high * num

/-- The point of a grid of the given count of digits that reads back and is nearest to the number,
if there is one. On a tie the larger one is taken. -/
def onGrid (significand : Nat) (exponent : Int) (count : Nat) : Option Decimal :=
  let (num, den) := Binary64.ratio significand exponent
  let place := magnitude num den - count + 1
  let (n, d) := scaled num den place
  let below : Decimal := ⟨n / d, place⟩
  let above : Decimal := ⟨n / d + 1, place⟩
  let fits := readsBack significand exponent
  if fits below && fits above then some (if 2 * (n % d) < d then below else above)
  else if fits below then some below
  else if fits above then some above
  else none

/-- The shortest decimal, trying grids from `count` digits on. Seventeen digits are always
enough. -/
def search (significand : Nat) (exponent : Int) : Nat → Nat → Decimal
  | 0, count => (onGrid significand exponent count).getD ⟨0, 0⟩
  | more + 1, count =>
    match onGrid significand exponent count with
    | some d => d
    | none => search significand exponent more (count + 1)

/-- The shortest decimal that reads back as a positive finite number. -/
def shortest (significand : Nat) (exponent : Int) : Decimal :=
  trim 20 (search significand exponent 16 1)

end Decimal

end MacroExpansion
