/-!
# Binary floating point

Numbers of 64 bits as they are stored, and the few operations channels need. A finite number is
`significand * 2 ^ exponent` with a sign. Every operation computes its result exactly and rounds it
once, to the nearest number and to an even significand on a tie, so all of them are ratios of
natural numbers put through `Binary64.ofRatio`.
-/

namespace MacroExpansion

/-- A number of 64 bits. -/
inductive Binary64 where
  | nan
  | infinite (negative : Bool)
  | finite (negative : Bool) (significand : Nat) (exponent : Int)
deriving DecidableEq, Repr, Inhabited

namespace Binary64

/-- The leading bit of a significand of full length, which is not stored. -/
def leadingBit : Nat := 0x10000000000000

/-- The bit of a sign. -/
def signBit : Nat := 0x8000000000000000

/-- The smallest exponent. Numbers with it may have a small significand. -/
def minExponent : Int := -1074

/-- The largest exponent. -/
def maxExponent : Int := 971

/-- The number that 64 bits stand for. -/
def ofBits (bits : Nat) : Binary64 :=
  let negative := bits / signBit % 2 == 1
  let field : Nat := bits / leadingBit % 2048
  let fraction := bits % leadingBit
  if field = 2047 then
    if fraction = 0 then infinite negative else nan
  else if field = 0 then finite negative fraction minExponent
  else finite negative (leadingBit + fraction) ((field : Int) - 1075)

/-- The bits of a number, with one pattern for everything that is no number. -/
def toBits : Binary64 → Nat
  | nan => 2047 * leadingBit + leadingBit / 2
  | infinite negative => sign negative + 2047 * leadingBit
  | finite negative significand exponent =>
    if significand < leadingBit then sign negative + significand
    else sign negative + (exponent + 1075).toNat * leadingBit + (significand - leadingBit)
where
  /-- What a sign adds to the bits. -/
  sign (negative : Bool) : Nat := if negative then signBit else 0

/-- Zero with a sign. -/
def zero (negative : Bool) : Binary64 := finite negative 0 minExponent

/-- Round a ratio of natural numbers to a natural number: to the nearest, on a tie to the even
one. -/
def roundEven (num den : Nat) : Nat :=
  let quotient := num / den
  let rest := 2 * (num % den)
  if rest < den then quotient
  else if den < rest then quotient + 1
  else if quotient % 2 = 0 then quotient else quotient + 1

/-- The ratio `num / (den * 2 ^ exponent)` as two natural numbers. -/
def scaled (num den : Nat) (exponent : Int) : Nat × Nat :=
  match exponent with
  | .ofNat n => (num, den * Nat.pow 2 n)
  | .negSucc n => (num * Nat.pow 2 (n + 1), den)

/-- The exponent at which a positive ratio has a significand of 53 bits, or the smallest one. -/
def exponentOf (num den : Nat) : Int :=
  let guess : Int := (Nat.log2 num : Int) - Nat.log2 den - 52
  let (n, d) := scaled num den guess
  let exact := if n < d * leadingBit then guess - 1 else guess
  max exact minExponent

/-- The number nearest to a ratio. -/
def ofRatio (negative : Bool) (num den : Nat) : Binary64 :=
  if num = 0 then zero negative
  else
    let exponent := exponentOf num den
    let (n, d) := scaled num den exponent
    let significand := roundEven n d
    let (significand, exponent) :=
      if significand = 2 * leadingBit then (leadingBit, exponent + 1) else (significand, exponent)
    if maxExponent < exponent then infinite negative
    else finite negative significand exponent

/-- The magnitude of a finite number as a ratio. -/
def ratio (significand : Nat) (exponent : Int) : Nat × Nat :=
  match exponent with
  | .ofNat n => (significand * Nat.pow 2 n, 1)
  | .negSucc n => (significand, Nat.pow 2 (n + 1))

/-- The product with a natural number. -/
def mulNat (x : Binary64) (k : Nat) : Binary64 :=
  match x with
  | finite negative significand exponent =>
    let (num, den) := ratio significand exponent
    ofRatio negative (num * k) den
  | x => x

/-- The quotient by a positive natural number. -/
def divNat (x : Binary64) (k : Nat) : Binary64 :=
  match x with
  | finite negative significand exponent =>
    let (num, den) := ratio significand exponent
    ofRatio negative num (den * k)
  | x => x

/-- The nearest integer; halves go away from zero. -/
def round (x : Binary64) : Binary64 :=
  match x with
  | finite negative significand exponent =>
    let (num, den) := ratio significand exponent
    ofRatio negative ((2 * num + den) / (2 * den)) 1
  | x => x

/-- Equality of numbers: zero has no sign, and what is no number equals nothing. -/
def equals : Binary64 → Binary64 → Bool
  | nan, _ => false
  | _, nan => false
  | finite a m e, finite b n f => (m == 0 && n == 0) || (a == b && m == n && e == f)
  | x, y => x == y

end Binary64

end MacroExpansion
