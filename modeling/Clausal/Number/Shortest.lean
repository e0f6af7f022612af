import Clausal.Number.Decimal

/-!
# The shortest numeral that reads back

A double is written with the fewest digits that read back as the same double. Numerals with
few digits are the multiples of a high power of ten, so the search goes from coarse powers of
ten to finer ones and asks of each whether one of the two multiples around the double reads
back. Of two that do, the nearer is taken, and the upper one when both are equally near.

The exact expansion of the double, a multiple of `10^-1074`, stands at the end of the search;
it always reads back, so every finite double has a numeral.
-/

namespace Clausal.Shortest

open Binary64 Decimal

/-- The code of the double nearest to `n` times ten to the given exponent. -/
def codeOf (n : Nat) : Int → Nat
  | .ofNat exponent => nearest (n * Nat.pow 10 exponent) 1
  | .negSucc exponent => nearest n (Nat.pow 10 (exponent + 1))

/-- A count of units over ten to the given exponent, as a fraction. -/
def scaled (count : Nat) : Int → Nat × Nat
  | .ofNat exponent => (count, Nat.pow 2 1074 * Nat.pow 10 exponent)
  | .negSucc exponent => (count * Nat.pow 10 (exponent + 1), Nat.pow 2 1074)

/-- The multiple of ten to the given exponent that reads back as the double of this code, if
there is one: the nearer of the two around the double, the upper one at equal distance. -/
def multiple? (code : Nat) (exponent : Int) : Option Nat :=
  let (num, den) := scaled (units code) exponent
  let lower := num / den
  let upper := lower + 1
  match codeOf lower exponent == code, codeOf upper exponent == code with
  | true, true => some (if 2 * num < (lower + upper) * den then lower else upper)
  | true, false => some lower
  | false, true => some upper
  | false, false => none

/-- An exponent of ten that is too coarse for the double of this code. One binary digit is
less than 30103 hundred-thousandths of a decimal one. -/
def coarsest (code : Nat) : Int :=
  ((units code).log2 - 1073) * 30103 / 100000 + 2

/-- The exponents of ten that are tried, coarse to fine. Seventeen digits always suffice, and
the first few exponents are coarser than needed. -/
def exponents (code : Nat) : List Int :=
  (List.range 24).map fun step : Nat => coarsest code - (step : Int)

/-- The digits of the shortest numeral for a code, as a natural number with an exponent of
ten. -/
def decimal (code : Nat) : Nat × Int :=
  ((exponents code).findSome? fun exponent =>
    (multiple? code exponent).map fun n => (n, exponent)).getD (units code * Nat.pow 5 1074, -1074)

/-- The numeral of a magnitude. Zero is a single digit. -/
def magnitude (code : Nat) : List Char :=
  if code = 0 then ['0']
  else positional (decimal code).1 (decimal code).2

/-- The text of a number. The infinities and what is no number have words of their own, and
what is no number has no sign. -/
def text (x : Float) : List Char :=
  let sign := if isNegative x then ['-'] else []
  if isFinite x then sign ++ magnitude (code x)
  else if code x = infinity then sign ++ "inf".toList
  else "NaN".toList

end Clausal.Shortest
