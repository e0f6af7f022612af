import Clausal.Number.Binary64

/-!
# Decimal numerals

A numeral is an optional minus sign, digits, and optionally a point with more digits. It is
read as the double nearest to the number it denotes.
-/

namespace Clausal.Decimal

/-! ## Reading -/

/-- The natural number that a run of digits denotes. -/
def digitsValue (digits : List Char) : Nat :=
  Nat.ofDigitChars 10 digits 0

/-- The double denoted by the digits before and after the point. -/
def ofDigits (negative : Bool) (whole fraction : List Char) : Float :=
  Binary64.ofFraction negative (digitsValue (whole ++ fraction)) (Nat.pow 10 fraction.length)

/-- The double that an unsigned numeral denotes, with a sign. -/
def readUnsigned (negative : Bool) (numeral : List Char) : Float :=
  ofDigits negative (numeral.takeWhile Char.isDigit) ((numeral.dropWhile Char.isDigit).drop 1)

/-- The double that a numeral denotes. -/
def read (numeral : List Char) : Float :=
  match numeral with
  | '-' :: rest => readUnsigned true rest
  | _ => readUnsigned false numeral

/-! ## Writing digits -/

/-- The digits of a natural number. -/
def digits (n : Nat) : List Char :=
  Nat.toDigits 10 n

/-- The last `width` digits of a natural number, with zeros in front where it has fewer. -/
def lastDigits : Nat → Nat → List Char
  | 0, _ => []
  | width + 1, n => lastDigits width (n / 10) ++ [Nat.digitChar (n % 10)]

/-- The numeral of `n` times ten to the given exponent, without an exponent of its own: whole
numbers get no point, and others exactly as many places as the exponent says. -/
def positional (n : Nat) : Int → List Char
  | .ofNat exponent => digits (n * Nat.pow 10 exponent)
  | .negSucc exponent =>
    let scale := Nat.pow 10 (exponent + 1)
    digits (n / scale) ++ '.' :: lastDigits (exponent + 1) (n % scale)

end Clausal.Decimal
