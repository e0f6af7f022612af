import Clausal.Number.Shortest
import Clausal.Proofs.Number.Encoding
import Clausal.Proofs.Number.Rounding
import Clausal.Proofs.Token.Numeral

/-!
# Numbers are read back

The text of a finite number is a numeral, and the number that it denotes is the one it was written
for. The search for the shortest numeral only stops at one that reads back, and the exact expansion
at its end does so too.

Main statements:
* `Decimal.readUnsigned_positional`: what is read from the digits of a decimal fraction;
* `Shortest.codeOf_decimal`: the digits that are written round to the number again;
* `Shortest.numeral_text`, `Shortest.read_text`: a finite number is written as a numeral, and read
  back from it.
-/

namespace Clausal

/-! ## Digits -/

namespace Decimal

theorem isDigits_digits (n : Nat) : IsDigits (digits n) :=
  fun _ mem => Nat.isDigit_of_mem_toDigits (by decide) (by decide) mem

theorem digits_ne_nil (n : Nat) : digits n ≠ [] :=
  Nat.toDigits_ne_nil

theorem length_lastDigits (width n : Nat) : (lastDigits width n).length = width := by
  induction width generalizing n with
  | zero => rfl
  | succ width ih => rw [lastDigits, List.length_append, ih, List.length_singleton]

theorem isDigits_lastDigits (width n : Nat) : IsDigits (lastDigits width n) := by
  induction width generalizing n with
  | zero => exact List.forall_mem_nil _
  | succ width ih =>
    refine List.forall_mem_append.mpr ⟨ih (n / 10), List.forall_mem_singleton.mpr ?_⟩
    rw [Nat.isDigit_digitChar, decide_eq_true_eq]
    exact Nat.mod_lt n (by decide)

/-- Each digit that follows counts the ones before it ten times as much. -/
theorem digitsValue_append (front back : List Char) :
    digitsValue (front ++ back) = 10 ^ back.length * digitsValue front + digitsValue back := by
  rw [digitsValue, Nat.ofDigitChars_append, Nat.ofDigitChars_eq_ofDigitChars_zero]
  rfl

theorem digitsValue_digits (n : Nat) : digitsValue (digits n) = n :=
  Nat.ofDigitChars_ten_toDigits

theorem digitsValue_lastDigits {width n : Nat} (h : n < 10 ^ width) :
    digitsValue (lastDigits width n) = n := by
  induction width generalizing n with
  | zero =>
    obtain rfl : n = 0 := by simpa using h
    rfl
  | succ width ih =>
    -- The number without its last digit has one digit less.
    have shorter : n / 10 < 10 ^ width := by
      rw [Nat.pow_succ] at h
      omega
    have last : digitsValue [Nat.digitChar (n % 10)] = n % 10 := by
      rw [digitsValue, Nat.ofDigitChars_cons_digitChar_of_lt_ten (Nat.mod_lt n (by decide))]
      exact Nat.zero_add _
    rw [lastDigits, digitsValue_append, ih shorter, last, List.length_singleton, Nat.pow_one]
    omega

/-! ## Positional numerals -/

/-- The double that is read from digits, without and with a fraction. -/
theorem readUnsigned_digits (negative : Bool) {whole : List Char} (h : IsDigits whole) :
    readUnsigned negative whole = Binary64.ofFraction negative (digitsValue whole) 1 := by
  rw [readUnsigned, List.takeWhile_eq_self_iff.mpr h, List.dropWhile_eq_nil_iff.mpr h,
    List.drop_nil, ofDigits, List.append_nil]
  rfl

theorem readUnsigned_point (negative : Bool) {whole : List Char} (h : IsDigits whole)
    (fraction : List Char) :
    readUnsigned negative (whole ++ '.' :: fraction) =
      Binary64.ofFraction negative (digitsValue (whole ++ fraction)) (10 ^ fraction.length) := by
  have hpoint : ¬ '.'.isDigit = true := by decide
  rw [readUnsigned, List.takeWhile_append_of_pos h, List.dropWhile_append_of_pos h,
    List.takeWhile_cons_of_neg hpoint, List.dropWhile_cons_of_neg hpoint, List.append_nil]
  rfl

/-- A positional numeral is digits, or digits with a point and a fraction. -/
theorem positional_cases (n : Nat) (exponent : Int) :
    ∃ c rest, positional n exponent = c :: rest ∧ c.isDigit = true ∧ NumeralTail rest := by
  -- Every number has at least one digit, which may be the first of a numeral.
  have split (m : Nat) : ∃ c rest, digits m = c :: rest ∧ c.isDigit = true ∧ IsDigits rest := by
    obtain ⟨c, rest, heq⟩ := List.exists_cons_of_ne_nil (digits_ne_nil m)
    have all := isDigits_digits m
    rw [heq] at all
    exact ⟨c, rest, heq, (List.forall_mem_cons.mp all).1, (List.forall_mem_cons.mp all).2⟩
  cases exponent with
  | ofNat exponent =>
    obtain ⟨c, rest, heq, digit, all⟩ := split (n * Nat.pow 10 exponent)
    exact ⟨c, rest, heq, digit, .digits all⟩
  | negSucc exponent =>
    obtain ⟨c, rest, heq, digit, all⟩ := split (n / Nat.pow 10 (exponent + 1))
    refine ⟨c, rest ++ '.' :: lastDigits (exponent + 1) (n % Nat.pow 10 (exponent + 1)), ?_, digit,
      .point all (isDigits_lastDigits _ _) ?_⟩
    · rw [positional, heq]
      rfl
    · rw [← List.length_pos_iff, length_lastDigits]
      exact Nat.succ_pos exponent

/-- From a positional numeral its own number is read. -/
theorem readUnsigned_positional (negative : Bool) (n : Nat) (exponent : Int) :
    readUnsigned negative (positional n exponent) =
      Binary64.ofCode negative (Shortest.codeOf n exponent) := by
  cases exponent with
  | ofNat exponent =>
    rw [positional, readUnsigned_digits negative (isDigits_digits _), digitsValue_digits]
    rfl
  | negSucc exponent =>
    -- The fraction has as many digits as there is room for, with zeros in front where it needs
    -- them.
    have bound : n % 10 ^ (exponent + 1) < 10 ^ (exponent + 1) :=
      Nat.mod_lt n (Nat.pow_pos (by decide))
    rw [positional, Nat.pow_eq, readUnsigned_point negative (isDigits_digits _), length_lastDigits,
      digitsValue_append, length_lastDigits, digitsValue_digits, digitsValue_lastDigits bound,
      Nat.div_add_mod]
    rfl

end Decimal

/-! ## The search -/

namespace Shortest

open Binary64 Decimal

/-- Whichever of the two multiples around a double is taken, it reads back. -/
theorem codeOf_multiple {code n : Nat} {exponent : Int} (h : multiple? code exponent = some n) :
    codeOf n exponent = code := by
  unfold multiple? at h
  dsimp only at h
  -- Both multiples read back, the one below does, or the one above does.
  split at h
  case h_1 lower upper =>
    obtain rfl := Option.some.inj h
    split
    · exact beq_iff_eq.mp lower
    · exact beq_iff_eq.mp upper
  case h_2 lower _ =>
    obtain rfl := Option.some.inj h
    exact beq_iff_eq.mp lower
  case h_3 upper =>
    obtain rfl := Option.some.inj h
    exact beq_iff_eq.mp upper
  case h_4 => contradiction

/-- The exact expansion of a magnitude is a multiple of `10^-1074`. -/
theorem codeOf_exact {code : Nat} (finite : code ≤ infinity) :
    codeOf (units code * Nat.pow 5 1074) (-1074) = code := by
  -- Under a name of its own the exponent is not computed with.
  generalize same : 1074 = k
  have expansion : units code * Nat.pow 5 k * Nat.pow 2 k = units code * Nat.pow 10 k :=
    (Nat.mul_assoc _ _ _).trans (congrArg _ (Nat.mul_pow 5 2 k).symm)
  rw [show (-1074 : Int) = .negSucc 1073 from rfl, codeOf, show 1073 + 1 = k from same]
  refine nearest_of_exact (Nat.pow_pos (by decide)) (Eq.trans ?_ expansion) finite
  congr 2

/-- The digits that are written round to the number again. -/
theorem codeOf_decimal {code : Nat} (finite : code ≤ infinity) :
    codeOf (decimal code).1 (decimal code).2 = code := by
  unfold decimal
  -- Whatever is found reads back, and so does the exact expansion if nothing is found.
  cases found : (exponents code).findSome? fun exponent =>
      (multiple? code exponent).map fun n => (n, exponent) with
  | none => exact codeOf_exact finite
  | some result =>
    obtain ⟨exponent, -, h⟩ := List.exists_of_findSome?_eq_some found
    obtain ⟨n, hn, rfl⟩ := Option.map_eq_some_iff.mp h
    exact codeOf_multiple hn

/-! ## The text of a number -/

theorem magnitude_cases (code : Nat) :
    ∃ c rest, magnitude code = c :: rest ∧ c.isDigit = true ∧ NumeralTail rest := by
  unfold magnitude
  split
  · exact ⟨'0', [], rfl, rfl, .digits (List.forall_mem_nil _)⟩
  · exact positional_cases _ _

theorem readUnsigned_magnitude (negative : Bool) {code : Nat} (finite : code ≤ infinity) :
    readUnsigned negative (magnitude code) = ofCode negative code := by
  unfold magnitude
  split
  · rename_i zero
    subst zero
    have digit : IsDigits ['0'] := List.forall_mem_singleton.mpr rfl
    have value : digitsValue ['0'] = 0 := rfl
    -- Zero is written apart, since no search would end at it.
    have zero : nearest 0 1 = 0 := by
      apply nearest_of_exact Nat.one_pos
      · simp only [units_of_lt (Nat.two_pow_pos 52), Nat.zero_mul]
      · exact finite
    rw [readUnsigned_digits negative digit, value, ofFraction, zero]
  · rw [readUnsigned_positional, codeOf_decimal finite]

theorem text_of_isFinite {x : Float} (finite : isFinite x = true) :
    text x = (if isNegative x then ['-'] else []) ++ magnitude (code x) := by
  rw [text, if_pos finite]

/-- **A finite number is written as a numeral.** -/
theorem numeral_text {x : Float} (finite : isFinite x = true) : Numeral (text x) := by
  obtain ⟨c, rest, heq, digit, tail⟩ := magnitude_cases (code x)
  rw [text_of_isFinite finite, heq]
  split
  · exact .negative digit tail
  · exact .unsigned digit tail

/-- **A finite number is read back from its text.** -/
theorem read_text {x : Float} (finite : isFinite x = true) : Decimal.read (text x) = x := by
  have bounded : code x ≤ infinity := Nat.le_of_lt (of_decide_eq_true finite)
  obtain ⟨c, rest, heq, digit, tail⟩ := magnitude_cases (code x)
  have back (negative : Bool) (sign : isNegative x = negative) :
      readUnsigned negative (magnitude (code x)) = x := by
    rw [readUnsigned_magnitude negative bounded, ← sign, ofCode_code]
  rw [text_of_isFinite finite]
  split
  · rename_i negative
    exact back true negative
  · rename_i nonnegative
    -- Without a sign the text starts with a digit.
    have noSign : c ≠ '-' := by
      rintro rfl
      exact absurd digit (by decide)
    rw [List.nil_append]
    refine Eq.trans ?_ (back false (by simpa using nonnegative))
    rw [heq, Decimal.read]
    simpa using noSign

end Shortest

end Clausal
