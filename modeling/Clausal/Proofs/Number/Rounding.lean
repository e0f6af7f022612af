import Clausal.Number.Binary64
import Mathlib.Algebra.Ring.Nat

/-!
# Doubles are their own roundings

Codes are ordered as the magnitudes they stand for, so the greatest code whose magnitude is not
above the magnitude of a code is the code itself. A fraction that a finite double equals is
therefore rounded to this double.

Main statements:
* `units_lt_units_succ`, `below_units`: codes and magnitudes;
* `nearest_of_exact`: a fraction that is a double is rounded to it.
-/

namespace Clausal.Binary64

/-! ## Codes and magnitudes -/

theorem units_eq (code : Nat) : units code =
    if code < 2 ^ 52 then code else (2 ^ 52 + code % 2 ^ 52) * 2 ^ (code / 2 ^ 52 - 1) := by
  simp only [units, Nat.pow_eq]

theorem below_eq (n : Nat) : below n =
    if n < 2 ^ 53 then n else (n.log2 - 52) * 2 ^ 52 + n / 2 ^ (n.log2 - 52) := by
  simp only [below, Nat.pow_eq]

/-- A code below `2^52` stands for itself. Every other one has an exponent above its fraction. -/
theorem code_cases (code : Nat) : code < 2 ^ 52 ∨
    ∃ exponent fraction, fraction < 2 ^ 52 ∧ code = (exponent + 1) * 2 ^ 52 + fraction := by
  by_cases small : code < 2 ^ 52
  · exact .inl small
  · exact .inr ⟨code / 2 ^ 52 - 1, code % 2 ^ 52, by omega, by omega⟩

theorem units_of_lt {code : Nat} (h : code < 2 ^ 52) : units code = code := by
  rw [units_eq, if_pos h]

/-- With an exponent there is a one before the fraction. -/
theorem units_of_exponent (exponent : Nat) {fraction : Nat} (h : fraction < 2 ^ 52) :
    units ((exponent + 1) * 2 ^ 52 + fraction) = (2 ^ 52 + fraction) * 2 ^ exponent := by
  have hmod : ((exponent + 1) * 2 ^ 52 + fraction) % 2 ^ 52 = fraction := by omega
  have hdiv : ((exponent + 1) * 2 ^ 52 + fraction) / 2 ^ 52 = exponent + 1 := by omega
  rw [units_eq, if_neg (by omega), hmod, hdiv, Nat.add_sub_cancel]

/-- The next code stands for a greater magnitude. -/
theorem units_lt_units_succ (code : Nat) : units code < units (code + 1) := by
  -- With and without an exponent
  rcases code_cases code with small | ⟨exponent, fraction, bound, rfl⟩
  · rw [units_of_lt small]
    by_cases next : code + 1 < 2 ^ 52
    · rw [units_of_lt next]
      exact Nat.lt_succ_self code
    · have first : code + 1 = (0 + 1) * 2 ^ 52 + 0 := by omega
      rw [first, units_of_exponent 0 (by decide)]
      omega
  · rw [units_of_exponent exponent bound, Nat.add_assoc]
    have positive : 0 < 2 ^ exponent := Nat.two_pow_pos exponent
    by_cases next : fraction + 1 < 2 ^ 52
    · rw [units_of_exponent exponent next]
      exact Nat.mul_lt_mul_of_pos_right (by omega) positive
    · -- The fraction is full, and the next code has the next exponent.
      have carry : (exponent + 1) * 2 ^ 52 + (fraction + 1) =
          (exponent + 1 + 1) * 2 ^ 52 + 0 := by omega
      have double : 2 ^ (exponent + 1) = 2 * 2 ^ exponent := Nat.pow_succ'
      rw [carry, units_of_exponent (exponent + 1) (by decide), double, ← Nat.mul_assoc]
      exact Nat.mul_lt_mul_of_pos_right (by omega) positive

/-- A code is the greatest one of its own magnitude. -/
theorem below_units (code : Nat) : below (units code) = code := by
  have small {n : Nat} (h : n < 2 ^ 53) : below n = n := by rw [below_eq, if_pos h]
  rcases code_cases code with low | ⟨exponent, fraction, bound, rfl⟩
  -- Such a code is its own magnitude, and so is the code found for it.
  · rw [units_of_lt low, small (by omega)]
  · rw [units_of_exponent exponent bound]
    have positive : 0 < 2 ^ exponent := Nat.two_pow_pos exponent
    cases exponent with
    | zero =>
      rw [small (by omega)]
      omega
    | succ exponent =>
      have double : 2 ^ (exponent + 1) = 2 * 2 ^ exponent := Nat.pow_succ'
      -- With an exponent above the least, the magnitude has more than 53 binary digits.
      have large : 2 ^ 53 ≤ (2 ^ 52 + fraction) * 2 ^ (exponent + 1) := by
        have : 2 ^ 52 * 2 ≤ (2 ^ 52 + fraction) * 2 ^ (exponent + 1) :=
          Nat.mul_le_mul (by omega) (by omega)
        omega
      -- The one before the fraction is the highest binary digit.
      have leading : ((2 ^ 52 + fraction) * 2 ^ (exponent + 1)).log2 = 52 + (exponent + 1) := by
        rw [Nat.log2_eq_iff (by omega), Nat.add_right_comm 52, Nat.pow_add 2 52,
          Nat.pow_add 2 (52 + 1)]
        exact ⟨Nat.mul_le_mul_right _ (by omega), Nat.mul_lt_mul_of_pos_right (by omega) positive⟩
      rw [below_eq, if_neg (by omega), leading, Nat.add_sub_cancel_left,
        Nat.mul_div_cancel _ positive]
      omega

/-! ## Rounding -/

/-- A fraction that is the magnitude of a code is rounded to this code. -/
theorem nearest_of_exact {num den code : Nat} (positive : 0 < den)
    (exact : num * Nat.pow 2 1074 = units code * den) (finite : code ≤ infinity) :
    nearest num den = code := by
  -- The fraction lies on the code, below the middle between this code and the next.
  have upward := units_lt_units_succ code
  have hcode : below (num * Nat.pow 2 1074 / den) = code := by
    rw [exact, Nat.mul_div_cancel _ positive, below_units]
  have low : 2 * (num * Nat.pow 2 1074) < (units code + units (code + 1)) * den := by
    rw [exact, ← Nat.mul_assoc]
    exact Nat.mul_lt_mul_of_pos_right (by omega) positive
  unfold nearest
  dsimp only
  rw [hcode, if_pos low, Nat.min_eq_left finite]

end Clausal.Binary64
