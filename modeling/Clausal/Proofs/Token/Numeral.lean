import Clausal.Proofs.Text.Character
import Clausal.Token.Scan
import Mathlib.Data.List.Basic
import Mathlib.Data.List.TakeWhile

/-!
# Numerals

A numeral is a digit followed by more digits, with or without a point and a fraction, and with or
without a minus sign in front. A point belongs to a numeral only together with a digit after it.

Main statements:
* `Decimal.Numeral`: the texts of numbers;
* `numeralLength_append`, `take_numeralLength`: as much of a text continues a numeral as can, and
  no more;
* `numeralLength_take`: what follows a numeral makes no difference to it.
-/

namespace Clausal

namespace Decimal

/-- A text of decimal digits, which may be empty. -/
def IsDigits (text : List Char) : Prop :=
  ∀ c ∈ text, c.isDigit = true

/-- What may follow the first digit of a numeral. -/
inductive NumeralTail : List Char → Prop where
  | digits {text : List Char} : IsDigits text → NumeralTail text
  | point {whole fraction : List Char} : IsDigits whole → IsDigits fraction → fraction ≠ [] →
      NumeralTail (whole ++ '.' :: fraction)

/-- Optionally signed decimal numerals. -/
inductive Numeral : List Char → Prop where
  | unsigned {c : Char} {rest : List Char} :
      c.isDigit = true → NumeralTail rest → Numeral (c :: rest)
  | negative {c : Char} {rest : List Char} :
      c.isDigit = true → NumeralTail rest → Numeral ('-' :: c :: rest)

/-- One digit more in front makes no difference. -/
theorem numeralTail_cons_iff {c : Char} {rest : List Char} (digit : c.isDigit = true) :
    NumeralTail (c :: rest) ↔ NumeralTail rest := by
  constructor
  · intro h
    generalize htext : c :: rest = text at h
    cases h with
    | digits h =>
      subst htext
      exact .digits fun d mem => h d (List.mem_cons_of_mem c mem)
    | @point whole fraction hwhole hfraction nonempty =>
      -- The point is not a digit, so the first digit is one of those before it.
      cases whole with
      | nil =>
        obtain ⟨rfl, -⟩ := List.cons.inj htext
        contradiction
      | cons d whole =>
        obtain ⟨rfl, rfl⟩ := List.cons.inj htext
        exact .point (fun d mem => hwhole d (List.mem_cons_of_mem _ mem)) hfraction nonempty
  · intro h
    cases h with
    | digits h => exact .digits (List.forall_mem_cons.mpr ⟨digit, h⟩)
    | point hwhole hfraction nonempty =>
      exact .point (List.forall_mem_cons.mpr ⟨digit, hwhole⟩) hfraction nonempty

/-- All that follows the first digit is digits and a point. -/
theorem NumeralTail.isDigit_or {text : List Char} (h : NumeralTail text) :
    ∀ c ∈ text, c.isDigit = true ∨ c = '.' := by
  intro c mem
  cases h with
  | digits h => exact .inl (h c mem)
  | point hwhole hfraction =>
    rw [List.mem_append, List.mem_cons] at mem
    rcases mem with mem | rfl | mem
    · exact .inl (hwhole c mem)
    · exact .inr rfl
    · exact .inl (hfraction c mem)

/-- A numeral ends with a digit. -/
theorem NumeralTail.getLast?_isDigit {text : List Char} (h : NumeralTail text) :
    ∀ c ∈ text.getLast?, c.isDigit = true := by
  cases h with
  | digits h => exact fun c mem => h c (List.mem_of_mem_getLast? mem)
  | point _ hfraction nonempty =>
    rw [List.getLast?_append_of_ne_nil _ (List.cons_ne_nil _ _),
      List.getLast?_cons_of_ne_nil nonempty]
    exact fun c mem => hfraction c (List.mem_of_mem_getLast? mem)

end Decimal

namespace Token

open Decimal

/-! ## How far a numeral reaches -/

theorem take_run (p : Char → Bool) (rest : List Char) :
    rest.take (rest.takeWhile p).length = rest.takeWhile p :=
  (List.prefix_iff_eq_take.mp (List.takeWhile_prefix p)).symm

theorem drop_run (p : Char → Bool) (rest : List Char) :
    rest.drop (rest.takeWhile p).length = rest.dropWhile p := by
  have h := @List.drop_left _ (rest.takeWhile p) (rest.dropWhile p)
  rwa [List.takeWhile_append_dropWhile] at h

/-- A run does not depend on what follows it. -/
theorem takeWhile_take_of_le {p : Char → Bool} {rest : List Char} {n : Nat}
    (h : (rest.takeWhile p).length ≤ n) : (rest.take n).takeWhile p = rest.takeWhile p := by
  rw [← List.take_takeWhile, List.take_of_length_le h]

theorem dropWhile_take_of_le {p : Char → Bool} {rest : List Char} {n : Nat}
    (h : (rest.takeWhile p).length ≤ n) :
    (rest.take n).dropWhile p = (rest.dropWhile p).take (n - (rest.takeWhile p).length) := by
  rw [← drop_run, takeWhile_take_of_le h, List.drop_take, drop_run]

/-- A run ends where a character is not of its class. -/
theorem not_of_getElem?_run {p : Char → Bool} {rest : List Char} {c : Char}
    (next : rest[(rest.takeWhile p).length]? = some c) : p c = false := by
  have ended := List.head?_dropWhile_not p rest
  rwa [← drop_run, List.head?_drop, next] at ended

/-- A numeral is read to its end if neither a digit nor a point follows it. -/
theorem numeralLength_append {tail after : List Char} (h : NumeralTail tail)
    (stop : ∀ c ∈ after.head?, c.isDigit = false ∧ c ≠ '.') :
    numeralLength (tail ++ after) = tail.length := by
  -- No digit follows, so what follows neither lengthens the digits nor starts with one.
  have noDigit : after.takeWhile Char.isDigit = [] ∧ after.dropWhile Char.isDigit = after := by
    cases after with
    | nil => exact ⟨rfl, rfl⟩
    | cons c after => simp [(stop c rfl).1]
  cases h with
  | digits digits =>
    unfold numeralLength
    rw [List.takeWhile_append_of_pos digits, List.dropWhile_append_of_pos digits, noDigit.1,
      noDigit.2, List.append_nil]
    dsimp only
    split
    · exact absurd rfl (stop '.' rfl).2
    · rfl
  | point hwhole hfraction nonempty =>
    have hpoint : '.'.isDigit = false := rfl
    unfold numeralLength
    rw [List.append_assoc, List.takeWhile_append_of_pos hwhole, List.dropWhile_append_of_pos hwhole,
      List.cons_append, List.takeWhile_cons_of_neg (by simp [hpoint]),
      List.dropWhile_cons_of_neg (by simp [hpoint])]
    simp [List.takeWhile_append_of_pos hfraction, noDigit.1, nonempty, Nat.add_assoc,
      Nat.add_comm 1]

/-- What continues a numeral is digits, or digits around a point. -/
theorem take_numeralLength (rest : List Char) : NumeralTail (rest.take (numeralLength rest)) := by
  -- Whatever the text is, its first digits are digits.
  have hrun (text : List Char) : IsDigits (text.takeWhile Char.isDigit) :=
    fun c mem => List.mem_takeWhile_imp mem
  unfold numeralLength
  dsimp only
  split
  · rename_i places heq
    split
    · rw [take_run]
      exact .digits (hrun rest)
    · -- A point with digits after it belongs to the numeral.
      rename_i nonempty
      have hsplit := List.takeWhile_append_dropWhile (p := Char.isDigit) (l := rest)
      rw [heq] at hsplit
      have htake (whole : List Char) (hrest : rest = whole ++ '.' :: places) (n : Nat) :
          rest.take (whole.length + 1 + n) = whole ++ '.' :: places.take n := by
        rw [hrest, Nat.add_assoc, List.take_length_add_append, Nat.add_comm 1 n,
          List.take_succ_cons]
      rw [htake _ hsplit.symm, take_run]
      exact .point (hrun rest) (hrun places) (by simpa using nonempty)
  · rw [take_run]
    exact .digits (hrun rest)

/-- How many characters a point and the digits after it take. A point without digits takes none. -/
def fractionLength : List Char → Nat
  | [] => 0
  | c :: places =>
    if c = '.' ∧ places.takeWhile Char.isDigit ≠ [] then (places.takeWhile Char.isDigit).length + 1
    else 0

theorem numeralLength_eq (rest : List Char) : numeralLength rest =
    (rest.takeWhile Char.isDigit).length + fractionLength (rest.dropWhile Char.isDigit) := by
  unfold numeralLength
  dsimp only
  split
  · rename_i places heq
    rw [heq, fractionLength]
    split <;> simp_all [Nat.add_assoc, Nat.add_comm 1]
  · rename_i noPoint
    -- Behind the digits nothing follows, or something that is no point.
    cases heq : rest.dropWhile Char.isDigit with
    | nil => rfl
    | cons c places =>
      have : c ≠ '.' := fun point => noPoint places (by rw [heq, point])
      simp [fractionLength, this]

theorem fractionLength_take {rest : List Char} {n : Nat} (h : fractionLength rest ≤ n) :
    fractionLength (rest.take n) = fractionLength rest := by
  cases n with
  | zero =>
    rw [Nat.le_zero.mp h]
    rfl
  | succ n =>
    cases rest with
    | nil => rfl
    | cons c places =>
      rw [fractionLength] at h
      rw [List.take_succ_cons, fractionLength, fractionLength]
      by_cases digits : (places.takeWhile Char.isDigit).length ≤ n
      · rw [takeWhile_take_of_le digits]
      · -- More digits than there is room for do not belong to the numeral.
        have noPoint : c ≠ '.' := by
          rintro rfl
          have nonempty : places.takeWhile Char.isDigit ≠ [] := by
            intro nothing
            simp [nothing] at digits
          rw [if_pos ⟨rfl, nonempty⟩] at h
          omega
        simp [noPoint]

/-- A numeral does not depend on what follows it. -/
theorem numeralLength_take {rest : List Char} {n : Nat} (h : numeralLength rest ≤ n) :
    numeralLength (rest.take n) = numeralLength rest := by
  rw [numeralLength_eq] at h
  -- There is room for the digits, and behind them for the fraction.
  have whole : (rest.takeWhile Char.isDigit).length ≤ n := by omega
  rw [numeralLength_eq, takeWhile_take_of_le whole, dropWhile_take_of_le whole,
    fractionLength_take (by omega), ← numeralLength_eq]

theorem numeralLength_pos {rest : List Char} (h : rest.head?.any Char.isDigit = true) :
    0 < numeralLength rest := by
  cases rest with
  | nil => simp at h
  | cons c rest =>
    have digit : c.isDigit = true := by simpa using h
    unfold numeralLength
    simp only [List.takeWhile_cons, digit, if_true, List.length_cons]
    split
    · split <;> omega
    · omega

end Token

end Clausal
