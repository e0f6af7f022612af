import Clausal.Number.Binary64
import Mathlib

/-!
# Doubles and their encodings

A double is known by its encoding: what is decoded from the bits of a double is this double. Only
what is no number has encodings that are not in use, all but one.

Main statements:
* `pack_unpack`: decoding an encoding in use and encoding it again changes nothing;
* `ofCode_code`: a double is given by its sign and its code.
-/

namespace Clausal.Binary64

open Float.Model Float.Model.UnpackedFloat

theorem toBitVec_ofBitVec (bit : BitVec 1) : (Sign.ofBitVec bit).toBitVec = bit := by
  revert bit
  decide

/-- An encoding is made of its sign, its exponent and its mantissa. -/
theorem packComponents_unpack (bits : BitVec Format.binary64.numBits) :
    packComponents .binary64 (Sign.ofBitVec (unpackSign bits)) (unpackExponent bits)
      (unpackMantissa bits) = bits := by
  simp only [packComponents, toBitVec_ofBitVec, unpackSign, unpackExponent, unpackMantissa,
    BitVec.extractLsb]
  ext i hi
  grind

/-- With the least exponent, a number without a leading one is encoded by its mantissa. -/
theorem pack_subnormal (sign : Sign) {mantissa : BitVec 52} (positive : 0 < mantissa.toNat) :
    UnpackedFloat.pack .binary64 (.finite sign mantissa.toNat (-1074) positive) =
      packComponents .binary64 sign 0#11 mantissa := by
  -- The mantissa has 52 digits at most, one less than a number with a leading one.
  have noLeading : ¬ mantissa.toNat.log2 + 1 = Format.binary64.mantissaBits := by
    have bound := (Nat.log2_lt (k := 52) (by omega)).mpr mantissa.isLt
    have size : Format.binary64.mantissaBits = 53 := by decide
    omega
  rw [UnpackedFloat.pack]
  dsimp only
  rw [if_neg (by decide), if_neg noLeading, BitVec.ofNat_toNat, BitVec.setWidth_eq]

/-- The leading one of any other number is not part of its encoding. -/
theorem pack_normal (sign : Sign) {exponent : BitVec 11} {mantissa : BitVec 52}
    (below : exponent ≠ -1#11) (positive : 0 < (1#1 ++ mantissa).toNat) :
    UnpackedFloat.pack .binary64
        (.finite sign (1#1 ++ mantissa).toNat ((exponent.toNat : Int) - (1023 + 52)) positive) =
      packComponents .binary64 sign exponent mantissa := by
  have value : (1#1 ++ mantissa).toNat = 2 ^ 52 + mantissa.toNat := by
    rw [BitVec.toNat_append, Nat.shiftLeft_eq, Nat.mul_comm,
      ← Nat.two_pow_add_eq_or_of_lt mantissa.isLt]
    rfl
  have bound := mantissa.isLt
  -- The leading one is the digit in front of the 52 of the mantissa.
  have leading : (1#1 ++ mantissa).toNat.log2 + 1 = Format.binary64.mantissaBits := by
    rw [value, (Nat.log2_eq_iff (k := 52) (by omega)).mpr ⟨by omega, by omega⟩]
    decide
  -- An exponent that is not the greatest stays below it.
  have top : ¬ 2 ^ Format.binary64.exponentBits ≤ exponent.toNat + 1 := by
    intro full
    have := exponent.isLt
    refine below (BitVec.eq_of_toNat_eq ?_)
    simp at full ⊢
    omega
  have biased : ((exponent.toNat : Int) - (1023 + 52) + (Format.binary64.exponentBias : Nat) +
      (Format.binary64.mantissaBitsWithoutImplicit : Nat)).toNat = exponent.toNat := by
    have bias : Format.binary64.exponentBias = 1023 := by decide
    have width : Format.binary64.mantissaBitsWithoutImplicit = 52 := rfl
    omega
  rw [UnpackedFloat.pack]
  dsimp only
  rw [biased, if_neg top, if_pos leading, BitVec.ofNat_toNat, BitVec.setWidth_eq]
  congr 1
  refine BitVec.eq_of_toNat_eq ?_
  rw [BitVec.toNat_ofNat, value, Nat.add_mod_left, Nat.mod_eq_of_lt bound]

/-- Decoding an encoding in use and encoding it again changes nothing. -/
theorem pack_unpack {bits : BitVec Format.binary64.numBits} (valid : Format.binary64.Valid bits) :
    UnpackedFloat.pack .binary64 (UnpackedFloat.unpack .binary64 bits) = bits := by
  have whole := packComponents_unpack bits
  rw [UnpackedFloat.unpack]
  dsimp only
  -- The greatest exponent stands for infinity and for what is no number.
  split
  case isTrue exponent =>
    rw [exponent] at whole
    split
    case isTrue mantissa =>
      rw [mantissa] at whole
      exact whole
    case isFalse mantissa => exact (valid.eq_packedNaN exponent mantissa).symm
  case isFalse below =>
    -- Exponent zero stands for zero and for the numbers without a leading one.
    split
    case isTrue exponent =>
      rw [exponent] at whole ⊢
      split
      case isTrue mantissa =>
        rw [mantissa] at whole
        exact whole
      case isFalse => exact (pack_subnormal _ _).trans whole
    case isFalse => exact (pack_normal _ below _).trans whole

/-- A double is the one that its encoding encodes. -/
theorem ofBits_toBits (x : Float) : Float.ofBits x.toBits = x := by
  obtain ⟨⟨bits, valid⟩⟩ := x
  have repacked : Float.Model.ofBits bits = ⟨bits, valid⟩ := by
    simp only [Float.Model.ofBits, Float.Model.pack, pack_unpack valid]
  exact congrArg Float.ofModel repacked

/-- A double is given by its sign and its code. -/
theorem ofCode_code (x : Float) : ofCode (isNegative x) (code x) = x := by
  have bound : x.toBits.toNat < 2 ^ 64 := x.toBits.toNat_lt
  -- The highest bit is the sign, and the code is what remains.
  have whole : (if isNegative x then Nat.pow 2 63 else 0) + code x = x.toBits.toNat := by
    simp only [isNegative, code, Nat.pow_eq, decide_eq_true_eq]
    split <;> omega
  rw [ofCode, whole, UInt64.ofNat_toNat, ofBits_toBits]

end Clausal.Binary64
