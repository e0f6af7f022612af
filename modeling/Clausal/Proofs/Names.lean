import Clausal.Names
import Mathlib.Algebra.GroupWithZero.Nat
import Mathlib.Data.List.Dedup

/-!
# Counting names

A finite map holds each name once, so its entries are counted by the names that it knows, whatever
the order in which they came.

Main statements:
* `mem_entries_iff`: the entries are what is found by looking up;
* `size_eq`, `sum_values_eq`: the number of names, and sums over the values.
-/

namespace Clausal.Names

variable {α : Type}

theorem mem_iff_lookup_eq_some {entries : List (String × α)} (h : (entries.map Prod.fst).Nodup)
    {name : String} {value : α} :
    (name, value) ∈ entries ↔ entries.lookup name = some value := by
  induction entries with
  | nil => simp
  | cons entry entries ih =>
    obtain ⟨key, current⟩ := entry
    rw [List.map_cons, List.nodup_cons] at h
    rw [List.mem_cons, ih h.2, List.lookup_cons]
    by_cases same : name = key
    · -- The name does not occur again, so nothing is found behind the first entry.
      subst same
      have absent : entries.lookup name ≠ some value := by
        intro found
        exact h.1 (List.mem_map.mpr ⟨(name, value), (ih h.2).mpr found, rfl⟩)
      simp [absent, eq_comm]
    · simp [same, beq_eq_false_iff_ne.mpr same]

/-- The entries are what is found by looking up. -/
theorem mem_entries_iff (names : Names α) {name : String} {value : α} :
    (name, value) ∈ names.entries ↔ names.get? name = some value :=
  mem_iff_lookup_eq_some names.nodup

section Counting

variable {names : Names α} {keys : List String}
  (h : ∀ name, (names.get? name).isSome = true ↔ name ∈ keys)
include h

theorem map_fst_perm : (names.entries.map Prod.fst).Perm keys.dedup := by
  -- Neither list has a name twice, so they need to have the same names only.
  rw [List.perm_ext_iff_of_nodup names.nodup (List.nodup_dedup keys)]
  intro name
  rw [List.mem_dedup, ← h, Option.isSome_iff_exists]
  simp only [← mem_entries_iff, List.mem_map, Prod.exists, exists_and_right, exists_eq_right]

/-- The size of a map is the number of different names that it knows. -/
theorem size_eq : names.size = keys.dedup.length := by
  rw [← (map_fst_perm h).length_eq, List.length_map, size]

/-- A sum over the values is a sum over the names. -/
theorem sum_values_eq {f : α → Nat} {value : String → α}
    (hvalue : ∀ name current, names.get? name = some current → current = value name) :
    (names.values.map f).sum = (keys.dedup.map fun name => f (value name)).sum := by
  have entrywise : names.values.map f =
      (names.entries.map Prod.fst).map fun name => f (value name) := by
    rw [values, List.map_map, List.map_map]
    refine List.map_congr_left fun entry mem => ?_
    exact congrArg f (hvalue entry.1 entry.2 ((mem_entries_iff names).mp mem))
  rw [entrywise]
  exact ((map_fst_perm h).map _).sum_nat

end Counting

end Clausal.Names
