/-!
# Names with values

A finite map from names to values that remembers in which order the names were first
inserted. Each name occurs once. Main statement: after an insertion the inserted name has the
new value and every other name the value it had.
-/

namespace Clausal

/-- A finite map from names to values, in the order of first insertion. -/
structure Names (α : Type) where
  entries : List (String × α)
  /-- Each name occurs once. -/
  nodup : (entries.map Prod.fst).Nodup

namespace Names

variable {α : Type}

/-- The map without names. -/
def empty : Names α where
  entries := []
  nodup := List.nodup_nil

instance : Inhabited (Names α) := ⟨empty⟩

/-- The value of a name. -/
def get? (names : Names α) (name : String) : Option α :=
  names.entries.lookup name

/-- Whether a name has a value. -/
def contains (names : Names α) (name : String) : Bool :=
  (names.get? name).isSome

/-- The number of names. -/
def size (names : Names α) : Nat :=
  names.entries.length

/-- The values in the order of their names. -/
def values (names : Names α) : List α :=
  names.entries.map Prod.snd

/-! ## Insertion -/

/-- The entries after a name is given a value: in its place if it is there, and at the end if
it is not. -/
def insertEntry (name : String) (value : α) : List (String × α) → List (String × α)
  | [] => [(name, value)]
  | (other, current) :: rest =>
    if other = name then (name, value) :: rest
    else (other, current) :: insertEntry name value rest

theorem mem_names_insertEntry {name other : String} {value : α} {entries : List (String × α)} :
    other ∈ (insertEntry name value entries).map Prod.fst ↔
      other = name ∨ other ∈ entries.map Prod.fst := by
  induction entries with
  | nil => simp [insertEntry]
  | cons entry rest ih =>
    simp only [insertEntry]
    split
    · rename_i h
      simp [h]
    · simp only [List.map_cons, List.mem_cons, ih]
      grind

theorem nodup_insertEntry (name : String) (value : α) {entries : List (String × α)}
    (h : (entries.map Prod.fst).Nodup) : ((insertEntry name value entries).map Prod.fst).Nodup := by
  induction entries with
  | nil => simp [insertEntry]
  | cons entry rest ih =>
    simp only [List.map_cons, List.nodup_cons] at h
    simp only [insertEntry]
    split
    · rename_i same
      simp only [List.map_cons, List.nodup_cons]
      exact same ▸ h
    · rename_i differs
      simp only [List.map_cons, List.nodup_cons, mem_names_insertEntry, not_or]
      exact ⟨⟨differs, h.1⟩, ih h.2⟩

/-- Gives a name a value. -/
def insert (names : Names α) (name : String) (value : α) : Names α where
  entries := insertEntry name value names.entries
  nodup := nodup_insertEntry name value names.nodup

/-! ## Looking up -/

@[simp]
theorem get?_empty (name : String) : (empty : Names α).get? name = none := rfl

theorem lookup_insertEntry (name other : String) (value : α) (entries : List (String × α)) :
    (insertEntry name value entries).lookup other =
      if other = name then some value else entries.lookup other := by
  induction entries with
  | nil =>
    by_cases h : other = name
    · simp [insertEntry, h]
    · simp [insertEntry, h]
  | cons entry rest ih =>
    obtain ⟨key, current⟩ := entry
    simp only [insertEntry]
    split
    · rename_i same
      by_cases h : other = name
      · simp [h]
      · have : ¬ other = key := fun eq => h (eq.trans same)
        simp [List.lookup_cons, h, beq_eq_false_iff_ne.2 h, beq_eq_false_iff_ne.2 this]
    · rename_i differs
      by_cases h : other = key
      · simp [h, differs]
      · simp [List.lookup_cons, beq_eq_false_iff_ne.2 h, ih]

/-- After an insertion the inserted name has the new value and every other name the value it
had. -/
@[simp]
theorem get?_insert (names : Names α) (name other : String) (value : α) :
    (names.insert name value).get? other =
      if other = name then some value else names.get? other :=
  lookup_insertEntry name other value names.entries

end Names

end Clausal
