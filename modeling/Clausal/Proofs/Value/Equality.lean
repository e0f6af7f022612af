import Clausal.Value.Operate

/-!
# Equality of values is a partial equivalence

Whether two values are equal does not depend on which of them comes first, and values that are
equal to the same value are equal to each other. What is missing from an equivalence is that a
value with a function or a NaN in it is equal to nothing, itself included.

On numbers this rests on how floating-point numbers are compared: they compare as equal if they
stand for the same number, and a NaN stands for none. On lists it is inherited from their elements.

Main statements:
* `float_beq_isPartialEquivalence`: equality of numbers is a partial equivalence;
* `Value.equals_comm`, `Value.equals_trans`, `Value.equals_self_iff`: and so is equality of values;
* `Value.equality_partial`: what this means for the operators `==` and `/=`.
-/

namespace Clausal

/-- A comparison is a partial equivalence if it is symmetric and transitive. The proper elements
are those that are equal to themselves. -/
structure IsPartialEquivalence {α : Type} (equal : α → α → Bool) (Proper : α → Prop) : Prop where
  symm {a b : α} : equal a b = true → equal b a = true
  trans {a b c : α} : equal a b = true → equal b c = true → equal a c = true
  self_iff {a : α} : equal a a = true ↔ Proper a

/-! ## Numbers -/

section Numbers

open Float.Model

/-- The number that a decoded double stands for, if it stands for one. The two zeros are the same
number. -/
def numberOf? : UnpackedFloat → Option UnpackedFloat
  | .notANumber => none
  | .zero _ => some (.zero .positive)
  | other => some other

/-- Doubles compare as equal exactly if they stand for the same number. -/
theorem unpackedFloat_compare_eq_iff (a b : UnpackedFloat) :
    a.compare b = some .eq ↔ ∃ number, numberOf? a = some number ∧ numberOf? b = some number := by
  have finite (e₁ e₂ : Int) (m₁ m₂ : Nat) :
      (compare e₁ e₂).then (compare m₁ m₂) = .eq ↔ e₁ = e₂ ∧ m₁ = m₂ := by
    rw [Ordering.then_eq_eq, Std.compare_eq_iff_eq, Std.compare_eq_iff_eq]
  constructor
  · intro h
    -- Infinities, NaN, zeros and finite numbers, each but NaN with a sign
    rcases a with (_ | _) | _ | (_ | _) | ⟨_ | _, m₁, e₁, _⟩ <;>
      rcases b with (_ | _) | _ | (_ | _) | ⟨_ | _, m₂, e₂, _⟩ <;>
      first | exact ⟨_, rfl, rfl⟩ | cases h | have same := Option.some.inj h
    -- Two finite numbers of the same sign are left.
    · obtain ⟨rfl, rfl⟩ := (finite e₁ e₂ m₁ m₂).mp (Ordering.swap_eq_eq.mp same)
      exact ⟨_, rfl, rfl⟩
    · obtain ⟨rfl, rfl⟩ := (finite e₁ e₂ m₁ m₂).mp same
      exact ⟨_, rfl, rfl⟩
  · rintro ⟨number, ha, hb⟩
    -- What stands for the same number is of the same sort, and then compares as equal.
    have same := ha.trans hb.symm
    rcases a with (_ | _) | _ | (_ | _) | ⟨_ | _, m₁, e₁, _⟩ <;>
      rcases b with (_ | _) | _ | (_ | _) | ⟨_ | _, m₂, e₂, _⟩ <;>
      first | rfl | (cases same; done) | (cases hb; done) | cases same
    · exact congrArg (fun order => some (Ordering.swap order)) ((finite e₁ e₁ m₁ m₁).mpr ⟨rfl, rfl⟩)
    · exact congrArg some ((finite e₁ e₁ m₁ m₁).mpr ⟨rfl, rfl⟩)

/-- Every double but NaN stands for a number. -/
theorem isNaN_eq_false_iff (x : Float) :
    x.isNaN = false ↔ ∃ number, numberOf? x.toModel.unpack = some number := by
  show x.toModel.unpack.isNaN = false ↔ _
  cases x.toModel.unpack with
  | notANumber => exact iff_of_false Bool.noConfusion (by rintro ⟨_, ⟨⟩⟩)
  | _ => exact iff_of_true rfl ⟨_, rfl⟩

/-- Numbers are equal exactly if they stand for the same number. -/
theorem float_beq_iff (a b : Float) : (a == b) = true ↔
    ∃ number, numberOf? a.toModel.unpack = some number ∧
      numberOf? b.toModel.unpack = some number := by
  rw [← unpackedFloat_compare_eq_iff]
  exact beq_iff_eq (α := Option Ordering)

theorem float_beq_comm (a b : Float) : (a == b) = (b == a) := by
  rw [Bool.eq_iff_iff, float_beq_iff, float_beq_iff]
  exact exists_congr fun _ => and_comm

/-- **Equality of numbers is a partial equivalence.** Every number but NaN is equal to itself. -/
theorem float_beq_isPartialEquivalence :
    IsPartialEquivalence (fun a b : Float => a == b) fun x => x.isNaN = false where
  symm {a b} h := (float_beq_comm b a).trans h
  trans {a b c} hab hbc := by
    rw [float_beq_iff] at hab hbc ⊢
    obtain ⟨number, ha, hb⟩ := hab
    obtain ⟨other, hb', hc⟩ := hbc
    -- The middle one stands for one number only.
    obtain rfl := Option.some.inj (hb.symm.trans hb')
    exact ⟨number, ha, hc⟩
  self_iff {a} := by
    rw [float_beq_iff, isNaN_eq_false_iff]
    simp only [and_self]

end Numbers

/-! ## Values -/

namespace Value

/-- `Part part value`: the value has this part, at some depth of lists, or it is the part itself. -/
inductive Part (part : Value) : Value → Prop where
  | self : Part part part
  | item {items : List Value} {item : Value} : item ∈ items → Part part item →
      Part part (.list items)

/-- A value without a NaN and without a function. -/
def Comparable (value : Value) : Prop :=
  (∀ x, Part (.number x) value → x.isNaN = false) ∧ ∀ callable, ¬ Part (.function callable) value

theorem comparable_number_iff {x : Float} : (number x).Comparable ↔ x.isNaN = false := by
  constructor
  · intro h
    exact h.1 x .self
  · intro h
    refine ⟨?_, ?_⟩
    · rintro y ⟨⟩
      exact h
    · rintro callable ⟨⟩

theorem comparable_bool (value : Bool) : (bool value).Comparable := by
  constructor <;> (intro _ part; cases part)

theorem comparable_string (text : String) : (string text).Comparable := by
  constructor <;> (intro _ part; cases part)

theorem not_comparable_function (callable : Callable) : ¬ (function callable).Comparable :=
  fun h => h.2 callable .self

theorem comparable_list_iff {items : List Value} :
    (list items).Comparable ↔ ∀ item ∈ items, item.Comparable := by
  constructor
  · intro h item mem
    exact ⟨fun x part => h.1 x (.item mem part), fun callable part => h.2 callable (.item mem part)⟩
  · intro h
    refine ⟨?_, ?_⟩
    · rintro x (_ | ⟨mem, part⟩)
      exact (h _ mem).1 x part
    · rintro callable (_ | ⟨mem, part⟩)
      exact (h _ mem).2 callable part

/-- Values of different kinds are never equal. -/
theorem equals_of_kind_ne {a b : Value} (h : a.kind ≠ b.kind) : a.equals b = false := by
  cases a <;> cases b <;> first | rfl | exact absurd rfl h

mutual

/-- **Equality of values does not depend on which of them comes first.** -/
theorem equals_comm (a b : Value) : a.equals b = b.equals a := by
  -- Values of different kinds are unequal in either order.
  cases a with
  | number =>
    cases b with
    | number => exact float_beq_comm _ _
    | _ => rfl
  | bool | string =>
    cases b <;> simp only [equals]
    exact BEq.comm
  | list as =>
    cases b with
    | list bs => exact equalsAll_comm as bs
    | _ => rfl
  | function => cases b <;> rfl

/-- Equality of lists of values does not depend on which of them comes first. -/
theorem equalsAll_comm (as bs : List Value) : equalsAll as bs = equalsAll bs as := by
  cases as with
  | nil => cases bs <;> rfl
  | cons a as =>
    cases bs with
    | nil => rfl
    | cons b bs => rw [equalsAll, equalsAll, equals_comm a b, equalsAll_comm as bs]

end

mutual

/-- **Values that are equal to the same value are equal to each other.** -/
theorem equals_trans {a b c : Value} (hab : a.equals b = true) (hbc : b.equals c = true) :
    a.equals c = true := by
  -- All three are of the same kind, or one of the comparisons fails.
  match a, b, c with
  | .number _, .number _, .number _ => exact float_beq_isPartialEquivalence.trans hab hbc
  | .bool _, .bool _, .bool _ =>
    exact beq_iff_eq.mpr ((beq_iff_eq.mp hab).trans (beq_iff_eq.mp hbc))
  | .string _, .string _, .string _ =>
    exact beq_iff_eq.mpr ((beq_iff_eq.mp hab).trans (beq_iff_eq.mp hbc))
  | .list as, .list bs, .list cs => exact equalsAll_trans hab hbc

/-- Lists that are equal to the same list are equal to each other. -/
theorem equalsAll_trans {as bs cs : List Value} (hab : equalsAll as bs = true)
    (hbc : equalsAll bs cs = true) : equalsAll as cs = true := by
  match as, bs, cs with
  | [], [], [] => rfl
  | a :: as, b :: bs, c :: cs =>
    rw [equalsAll, Bool.and_eq_true] at hab hbc ⊢
    exact ⟨equals_trans hab.1 hbc.1, equalsAll_trans hab.2 hbc.2⟩

end

mutual

/-- **A value is equal to itself exactly if it has no NaN and no function in it.** -/
theorem equals_self_iff (value : Value) : value.equals value = true ↔ value.Comparable := by
  -- Each kind has its own exceptions: NaN among numbers, every function, and what lists inherit.
  cases value with
  | number x => exact float_beq_isPartialEquivalence.self_iff.trans comparable_number_iff.symm
  | bool value => exact iff_of_true (beq_self_eq_true value) (comparable_bool value)
  | string text => exact iff_of_true (beq_self_eq_true text) (comparable_string text)
  | list items => exact (equalsAll_self_iff items).trans comparable_list_iff.symm
  | function callable => exact iff_of_false Bool.false_ne_true (not_comparable_function callable)

/-- A list is equal to itself exactly if none of its elements has a NaN or a function in it. -/
theorem equalsAll_self_iff (values : List Value) :
    equalsAll values values = true ↔ ∀ value ∈ values, value.Comparable := by
  cases values with
  | nil => exact iff_of_true rfl (by simp)
  | cons value values =>
    rw [equalsAll, Bool.and_eq_true, List.forall_mem_cons, equals_self_iff value,
      equalsAll_self_iff values]

end

theorem equals_isPartialEquivalence : IsPartialEquivalence equals Comparable where
  symm {a b} h := (equals_comm b a).trans h
  trans := equals_trans
  self_iff {a} := equals_self_iff a

/-- **Equality of values is a partial equivalence, to which only functions and NaN are exceptions.**

It is symmetric and transitive, a value is equal to itself exactly if no part of it is a NaN or a
function, at whatever depth of lists, and values of different kinds are never equal. The operators
`==` and `/=` succeed on any two values, with opposite answers. -/
theorem equality_partial :
    (∀ u v : Value, u.equals v = true → v.equals u = true) ∧
    (∀ u v w : Value, u.equals v = true → v.equals w = true → u.equals w = true) ∧
    (∀ u : Value, u.equals u = true ↔ (∀ x, Part (.number x) u → x.isNaN = false) ∧
      ∀ callable, ¬ Part (.function callable) u) ∧
    (∀ u v : Value, u.kind ≠ v.kind → u.equals v = false) ∧
    ∀ u v : Value, ∃ equal, equal = u.equals v ∧ Operator.eq.apply u v = .ok (.bool equal) ∧
      Operator.ne.apply u v = .ok (.bool !equal) :=
  ⟨fun _ _ => equals_isPartialEquivalence.symm, fun _ _ _ => equals_isPartialEquivalence.trans,
    fun _ => equals_isPartialEquivalence.self_iff, fun _ _ => equals_of_kind_ne,
    fun u v => ⟨u.equals v, rfl, rfl, rfl⟩⟩

/-- A number in a list in a list, beside a string. -/
def inLists (x : Float) : Value :=
  .list [.string "a", .list [.number x]]

/-- The two zeros are equal, also inside of lists, and so is each of them to itself. -/
theorem equality_partial_zeros :
    (inLists (Float.ofBits 0)).equals (inLists (Float.ofBits 0x8000000000000000)) = true ∧
    (inLists (Float.ofBits 0x8000000000000000)).equals (inLists (Float.ofBits 0)) = true ∧
    (inLists (Float.ofBits 0)).equals (inLists (Float.ofBits 0)) = true ∧
    (inLists (Float.ofBits 0)).kind ≠ (Value.bool true).kind ∧
    (inLists (Float.ofBits 0)).equals (.bool true) = false := by
  obtain ⟨symm, trans, -, kinds, -⟩ := equality_partial
  have zeros :
      (inLists (Float.ofBits 0)).equals (inLists (Float.ofBits 0x8000000000000000)) = true := by
    decide +kernel
  have different : (inLists (Float.ofBits 0)).kind ≠ (Value.bool true).kind := by decide
  exact ⟨zeros, symm _ _ zeros, trans _ _ _ zeros (symm _ _ zeros), different, kinds _ _ different⟩

end Value

end Clausal
