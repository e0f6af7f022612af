/-!
# Finite doubles as whole numbers of units

Every finite double is a whole number of units of `2^-1074`, the smallest positive double. A
double without its sign is known by its *code*, the lower 63 bits of its encoding, and codes
are ordered as the magnitudes they stand for. Rounding a fraction to a double is then a
matter of natural numbers: find the greatest code whose magnitude is not above the fraction,
and compare the fraction with the middle between this code and the next.
-/

namespace Clausal.Binary64

/-! ## Codes and magnitudes -/

/-- The magnitude that a code stands for, in units of `2^-1074`. The lowest 52 bits are the
fraction, the bits above them the exponent; only exponent zero has no leading one. The
codes from `infinity` on are given the magnitudes they would have if exponents went on. -/
def units (code : Nat) : Nat :=
  if code < Nat.pow 2 52 then code
  else (Nat.pow 2 52 + code % Nat.pow 2 52) * Nat.pow 2 (code / Nat.pow 2 52 - 1)

/-- The code of infinity. Greater codes are no numbers. -/
def infinity : Nat :=
  2047 * Nat.pow 2 52

/-- The greatest code whose magnitude is at most `n` units. -/
def below (n : Nat) : Nat :=
  if n < Nat.pow 2 53 then n
  else (n.log2 - 52) * Nat.pow 2 52 + n / Nat.pow 2 (n.log2 - 52)

/-- The code of the double nearest to the fraction `num / den`. Of two nearest doubles it is
the one with the even code. From half a step above the greatest finite double on it is
infinity. -/
def nearest (num den : Nat) : Nat :=
  let code := below (num * Nat.pow 2 1074 / den)
  let middle := (units code + units (code + 1)) * den
  let twice := 2 * (num * Nat.pow 2 1074)
  let rounded :=
    if twice < middle then code
    else if middle < twice then code + 1
    else code + code % 2
  min rounded infinity

/-! ## Codes and doubles -/

/-- The code of a double, which is its encoding without the sign. -/
def code (x : Float) : Nat :=
  x.toBits.toNat % Nat.pow 2 63

/-- Whether the sign of a double is set. Zero has two signs. -/
def isNegative (x : Float) : Bool :=
  Nat.pow 2 63 ≤ x.toBits.toNat

/-- The double with this sign and code. -/
def ofCode (negative : Bool) (code : Nat) : Float :=
  Float.ofBits (UInt64.ofNat ((if negative then Nat.pow 2 63 else 0) + code))

/-- A double that is neither infinite nor no number at all. -/
def isFinite (x : Float) : Bool :=
  code x < infinity

/-- The double nearest to `num / den`, with a sign. -/
def ofFraction (negative : Bool) (num den : Nat) : Float :=
  ofCode negative (nearest num den)

/-- The greatest whole number not above `x`. What is already whole stays as it is, and so do
the infinities and what is no number. -/
def floor (x : Float) : Float :=
  let whole := units (code x) / Nat.pow 2 1074
  if !isFinite x || units (code x) % Nat.pow 2 1074 == 0 then x
  else if isNegative x then ofFraction true (whole + 1) 1
  else ofFraction false whole 1

end Clausal.Binary64
