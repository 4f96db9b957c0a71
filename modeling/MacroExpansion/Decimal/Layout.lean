import MacroExpansion.Decimal.Shortest

/-!
# Numbers as text

A layout says how the shortest decimal of a number is written: when an exponent is used, and whether
a whole number shows its fraction.
-/

namespace MacroExpansion

/-- How a number is written. -/
structure Layout where
  /-- Is a fraction shown even for a whole number? -/
  wholeFraction : Bool
  /-- The powers of ten, the first included and the second excluded, that are written without an
  exponent. Nothing means all of them. -/
  positional : Option (Int × Int)
deriving Repr

namespace Layout

/-- Numbers as they are displayed: never an exponent, and a fraction only where there is one. -/
def display : Layout := ⟨false, none⟩

/-- Numbers as they are shown to a programmer: always recognisable as no integer, and with an
exponent below a ten-thousandth and from ten to the sixteenth on. -/
def debug : Layout := ⟨true, some (-4, 16)⟩

/-- The digits of a natural number. -/
def numeral (n : Nat) : String := String.ofList (Nat.toDigits 10 n)

/-- As many zeros. -/
def zeros (n : Nat) : String := String.ofList (List.replicate n '0')

/-- A decimal without an exponent. -/
def positionalText (layout : Layout) (d : Decimal) : String :=
  match d.exponent with
  | .ofNat n => numeral d.digits ++ zeros n ++ (if layout.wholeFraction then ".0" else "")
  | .negSucc n =>
    let digits := Nat.toDigits 10 d.digits
    let places := n + 1
    if digits.length ≤ places then
      "0." ++ zeros (places - digits.length) ++ String.ofList digits
    else
      String.ofList (digits.take (digits.length - places)) ++ "." ++
        String.ofList (digits.drop (digits.length - places))

/-- An integer with its sign. -/
def signed : Int → String
  | .ofNat n => numeral n
  | .negSucc n => "-" ++ numeral (n + 1)

/-- A decimal with an exponent: one digit in front of the point. -/
def exponentText (d : Decimal) : String :=
  let digits := Nat.toDigits 10 d.digits
  let power := d.exponent + (digits.length - 1 : Nat)
  String.ofList (digits.take 1) ++
    (if digits.length ≤ 1 then "" else "." ++ String.ofList (digits.drop 1)) ++
    "e" ++ signed power

/-- The magnitude of a finite number. -/
def magnitudeText (layout : Layout) (significand : Nat) (exponent : Int) : String :=
  if significand = 0 then if layout.wholeFraction then "0.0" else "0"
  else
    let d := Decimal.shortest significand exponent
    let power := d.exponent + (Decimal.length d.digits - 1 : Nat)
    let plain :=
      match layout.positional with
      | none => true
      | some (low, high) => low ≤ power && power < high
    if plain then positionalText layout d else exponentText d

/-- A number as text. -/
def text (layout : Layout) : Binary64 → String
  | .nan => "NaN"
  | .infinite negative => if negative then "-inf" else "inf"
  | .finite negative significand exponent =>
    (if negative then "-" else "") ++ magnitudeText layout significand exponent

end Layout

end MacroExpansion
