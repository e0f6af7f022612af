import Clausal.Pattern.Match
import Clausal.Proofs.Names
import Mathlib.Data.List.Induction

/-!
# What a match binds

A match yields the names of the patterns, each with its part of the arguments, and binding them
one after the other makes the last occurrence of a name count. The name `_` stays unbound.

Main statements:
* `get?_ofParts`, `get?_ofParts_of_mem`: a name is bound to the last of its parts, and to its only
  part if it occurs once;
* `fst_partsAll?`: a match has a part for each name that the patterns mention;
* `get?_isSome_of_match?`: a match binds every name that the patterns mention, except `_`.
-/

namespace Clausal

/-! ## The names of patterns -/

/-- The names that a pattern mentions, in the order in which they are written. -/
def Pattern.names : Pattern → List String
  | .cons head tail => [head, tail]
  | .elements names => names
  | .variable name => [name]
  | .emptyList | .wildcard | .literal _ => []

/-- The parts of a match belong to the names of the pattern. -/
theorem Pattern.fst_parts? {pattern : Pattern} {value : Value} {parts : List (String × Value)}
    (h : pattern.parts? value = some parts) : parts.map Prod.fst = pattern.names := by
  revert h
  fun_cases Pattern.parts? pattern value with
  | case3 names items sameLength =>
    -- A list of names takes as many items as there are names.
    rintro ⟨⟩
    exact List.map_fst_zip (Nat.le_of_eq sameLength)
  | case4 | case8 | case9 => rintro ⟨⟩
  | _ =>
    rintro ⟨⟩
    rfl

/-- The parts of the arguments belong to the names of the patterns. -/
theorem Pattern.fst_partsAll? {patterns : List Pattern} {arguments : List Value}
    {parts : List (String × Value)} (h : partsAll? patterns arguments = some parts) :
    parts.map Prod.fst = patterns.flatMap Pattern.names := by
  fun_induction partsAll? patterns arguments generalizing parts with
  | case1 =>
    obtain rfl := Option.some.inj h
    rfl
  | case2 pattern patterns argument arguments first others hothers hfirst ih =>
    obtain rfl := Option.some.inj h
    rw [List.map_append, List.flatMap_cons, fst_parts? hfirst, ih hothers]
  | _ => contradiction

/-! ## Binding -/

namespace Bindings

theorem ofParts_concat (parts : List (String × Value)) (part : String × Value) :
    ofParts (parts ++ [part]) = (ofParts parts).bind part.1 part.2 := by
  rw [ofParts, List.foldl_append]
  rfl

theorem get?_bind (bindings : Bindings) (name other : String) (value : Value) :
    (bindings.bind name value).get? other =
      if other = name ∧ name ≠ "_" then some value else bindings.get? other := by
  -- The name `_` is passed over.
  unfold bind
  split
  · rename_i blank
    simp [blank]
  · rename_i named
    simp [named]

/-- A name is bound to the last of its parts, unless it is `_`. -/
theorem get?_ofParts (parts : List (String × Value)) (name : String) :
    (ofParts parts).get? name = if name = "_" then none else parts.reverse.lookup name := by
  -- The last part decides, so the list is taken apart from its end.
  induction parts using List.reverseRecOn with
  | nil => simp [ofParts]
  | append_singleton parts part ih =>
    rw [ofParts_concat, get?_bind, ih, List.reverse_append]
    show _ = if name = "_" then none else List.lookup name (part :: parts.reverse)
    rw [List.lookup_cons]
    grind

/-- A name that occurs once is bound to its part. -/
theorem get?_ofParts_of_mem {parts : List (String × Value)} {name : String} {value : Value}
    (distinct : (parts.map Prod.fst).Nodup) (named : name ≠ "_") (mem : (name, value) ∈ parts) :
    (ofParts parts).get? name = some value := by
  rw [get?_ofParts, if_neg named, ← Names.mem_iff_lookup_eq_some]
  · exact List.mem_reverse.mpr mem
  · rw [List.map_reverse]
    exact List.nodup_reverse.mpr distinct

/-- What a name is bound to is one of the parts. -/
theorem mem_of_get?_ofParts {parts : List (String × Value)} {name : String} {value : Value}
    (h : (ofParts parts).get? name = some value) : (name, value) ∈ parts := by
  rw [get?_ofParts] at h
  split at h
  · contradiction
  · obtain ⟨before, after, hparts, -⟩ := List.lookup_eq_some_iff.mp h
    rw [← List.mem_reverse, hparts]
    exact List.mem_append_right before List.mem_cons_self

end Bindings

/-- A match binds every name that the patterns mention, except `_`. -/
theorem Clause.get?_isSome_of_match? {clause : Clause} {arguments : List Value}
    {bindings : Bindings} (h : clause.match? arguments = some bindings) {name : String}
    (mem : name ∈ clause.parameters.flatMap Pattern.names) (named : name ≠ "_") :
    (bindings.get? name).isSome := by
  obtain ⟨parts, hparts, rfl⟩ := Option.map_eq_some_iff.mp h
  -- There is a part for every name, so there is one for this.
  rw [← Pattern.fst_partsAll? hparts] at mem
  rw [Bindings.get?_ofParts, if_neg named, List.lookup_isSome_iff]
  obtain ⟨part, inside, rfl⟩ := List.mem_map.mp mem
  exact ⟨part, List.mem_reverse.mpr inside, BEq.rfl⟩

end Clausal
