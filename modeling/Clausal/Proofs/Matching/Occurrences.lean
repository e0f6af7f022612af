import Clausal.Proofs.Matching.Bindings
import Mathlib.Data.Prod.Lex
import Mathlib.Data.List.Forall2

/-!
# What a clause accepts and what it binds

Matching told without bindings: which values a pattern accepts, and which part of the arguments
the name at each place of the parameters stands for. Places are read from left to right, first by
the parameter and then by where in the parameter the name is written.

Main statements:
* `Pattern.isSome_partsAll?_iff`: arguments match patterns exactly if each is accepted by its own;
* `Pattern.exists_last_place`: what a name is bound to is the part at its last place;
* `Clause.matching_exact`: what a clause accepts, which names it binds, and to what.
-/

namespace Clausal

/-! ## What patterns accept -/

namespace Pattern

/-- `pattern.Accepts value`: the value is one of those that the pattern is for. -/
inductive Accepts : Pattern → Value → Prop where
  /-- The empty list. -/
  | emptyList : Accepts .emptyList (.list [])
  /-- A list with at least one element. -/
  | cons {head tail : String} {items : List Value} :
      items ≠ [] → Accepts (.cons head tail) (.list items)
  /-- A list with exactly as many elements as there are names. -/
  | elements {names : List String} {items : List Value} :
      names.length = items.length → Accepts (.elements names) (.list items)
  /-- Anything. -/
  | variable (name : String) (value : Value) : Accepts (.variable name) value
  /-- Anything. -/
  | wildcard (value : Value) : Accepts .wildcard value
  /-- A value that is equal to the constant. -/
  | literal {constant value : Value} :
      constant.equals value = true → Accepts (.literal constant) value

/-- A pattern has parts in exactly the values that it accepts. -/
theorem isSome_parts?_iff {pattern : Pattern} {value : Value} :
    (pattern.parts? value).isSome ↔ pattern.Accepts value := by
  constructor
  · fun_cases parts? pattern value with
    | case1 => exact fun _ => .emptyList
    | case2 => exact fun _ => .cons (List.cons_ne_nil _ _)
    | case3 names items sameLength => exact fun _ => .elements sameLength
    | case5 => exact fun _ => .variable _ _
    | case6 => exact fun _ => .wildcard _
    | case7 _ constant equal => exact fun _ => .literal equal
    | _ => rintro ⟨⟩
  · intro accepted
    cases accepted with
    | emptyList | «variable» | wildcard => rfl
    -- The matcher looks at the first element, so the list is taken apart here as well.
    | @cons head tail items nonempty =>
      obtain ⟨item, items, rfl⟩ := List.exists_cons_of_ne_nil nonempty
      rfl
    | elements sameLength => rw [parts?, if_pos sameLength, Option.isSome_some]
    | literal equal => rw [parts?, if_pos equal, Option.isSome_some]

/-- Arguments match patterns exactly if each is accepted by its own. -/
theorem isSome_partsAll?_iff {patterns : List Pattern} {arguments : List Value} :
    (partsAll? patterns arguments).isSome ↔ List.Forall₂ Accepts patterns arguments := by
  induction patterns generalizing arguments with
  | nil => cases arguments <;> simp [partsAll?]
  | cons pattern patterns ih =>
    cases arguments with
    | nil => simp [partsAll?]
    | cons argument arguments =>
      rw [List.forall₂_cons, ← isSome_parts?_iff, ← ih, partsAll?]
      cases pattern.parts? argument <;> cases partsAll? patterns arguments <;> simp

/-! ## What names stand for -/

/-- `pattern.PartAt value index name part`: in the pattern the name with this index, counted from
zero, is `name`, and it stands for `part` of the value. -/
inductive PartAt : Pattern → Value → Nat → String → Value → Prop where
  | head (head tail : String) (item : Value) (items : List Value) :
      PartAt (.cons head tail) (.list (item :: items)) 0 head item
  /-- The second name stands for the list of all elements after the first. -/
  | tail (head tail : String) (item : Value) (items : List Value) :
      PartAt (.cons head tail) (.list (item :: items)) 1 tail (.list items)
  | element {names : List String} {items : List Value} {index : Nat} {name : String}
      {item : Value} :
      names[index]? = some name → items[index]? = some item →
        PartAt (.elements names) (.list items) index name item
  | variable (name : String) (value : Value) : PartAt (.variable name) value 0 name value

theorem PartAt.getElem?_names {pattern : Pattern} {value part : Value} {index : Nat}
    {name : String} (h : pattern.PartAt value index name part) :
    pattern.names[index]? = some name := by
  cases h with
  | head | tail | «variable» => rfl
  | element hname _ => exact hname

/-- A name at a given index stands for one part only. -/
theorem PartAt.unique {pattern : Pattern} {value part other : Value} {index : Nat}
    {name name' : String} (h : pattern.PartAt value index name part)
    (h' : pattern.PartAt value index name' other) : other = part := by
  cases h with
  | head | tail | «variable» =>
    cases h'
    rfl
  | element _ hitem =>
    cases h' with
    | element _ hitem' => exact Option.some.inj (hitem'.symm.trans hitem)

/-- The parts of a match are what the names stand for, in the order in which they are written. -/
theorem partAt_of_getElem? {pattern : Pattern} {value part : Value}
    {parts : List (String × Value)} (h : pattern.parts? value = some parts) {index : Nat}
    {name : String} (found : parts[index]? = some (name, part)) :
    pattern.PartAt value index name part := by
  revert h
  fun_cases parts? pattern value with
  | case2 head tail item items =>
    rintro ⟨⟩
    -- Such a pattern has two names, and two indices.
    obtain _ | _ | index := index
    · obtain ⟨rfl, rfl⟩ := Prod.mk.inj (Option.some.inj found)
      exact .head head tail item items
    · obtain ⟨rfl, rfl⟩ := Prod.mk.inj (Option.some.inj found)
      exact .tail head tail item items
    · contradiction
  | case3 names items =>
    rintro ⟨⟩
    obtain ⟨hname, hitem⟩ := List.getElem?_zip_eq_some.mp found
    exact .element hname hitem
  | case5 =>
    rintro ⟨⟩
    obtain _ | index := index
    · obtain ⟨rfl, rfl⟩ := Prod.mk.inj (Option.some.inj found)
      exact .variable _ _
    · contradiction
  | case1 | case6 | case7 =>
    -- These patterns have no names, so no index is found.
    rintro ⟨⟩
    contradiction
  | _ => rintro ⟨⟩

/-! ## Places -/

/-- A place where a name can stand in parameters: which parameter it is, and which of the names in
it, both counted from zero. Of two places the one that is read first is the smaller one. -/
abbrev Place : Type := Nat ×ₗ Nat

/-- The place that is the same when one more parameter stands in front. -/
def Place.shift (place : Place) : Place :=
  toLex ((ofLex place).1 + 1, (ofLex place).2)

theorem Place.shift_le_shift {place later : Place} (h : later ≤ place) :
    later.shift ≤ place.shift := by
  -- Either the parameter is an earlier one, or it is the same and the name in it decides.
  rcases Prod.Lex.le_iff.mp h with before | ⟨same, behind⟩
  · exact Prod.Lex.le_iff.mpr (.inl (Nat.succ_lt_succ before))
  · exact Prod.Lex.le_iff.mpr (.inr ⟨congrArg Nat.succ same, behind⟩)

/-- The name at a place of the patterns. -/
def nameAt? (patterns : List Pattern) (place : Place) : Option String := do
  let pattern ← patterns[(ofLex place).1]?
  pattern.names[(ofLex place).2]?

/-- The name at a place of the patterns is `name`, and it stands for `part` of the arguments. -/
def StandsAt (patterns : List Pattern) (arguments : List Value) (place : Place) (name : String)
    (part : Value) : Prop :=
  ∃ pattern argument, patterns[(ofLex place).1]? = some pattern ∧
    arguments[(ofLex place).1]? = some argument ∧
    pattern.PartAt argument (ofLex place).2 name part

section Places

variable {pattern : Pattern} {patterns : List Pattern} {argument : Value}
  {arguments : List Value} {place : Place} {name : String} {part other : Value}

theorem StandsAt.nameAt? (h : StandsAt patterns arguments place name part) :
    nameAt? patterns place = some name := by
  obtain ⟨pattern, argument, hpattern, -, hpart⟩ := h
  rw [Pattern.nameAt?, hpattern]
  exact hpart.getElem?_names

/-- A place stands for one part only. -/
theorem StandsAt.unique (h : StandsAt patterns arguments place name part)
    (h' : StandsAt patterns arguments place name other) : other = part := by
  obtain ⟨pattern, argument, hpattern, hargument, hpart⟩ := h
  obtain ⟨pattern', argument', hpattern', hargument', hpart'⟩ := h'
  obtain rfl := Option.some.inj (hpattern.symm.trans hpattern')
  obtain rfl := Option.some.inj (hargument.symm.trans hargument')
  exact hpart.unique hpart'

theorem StandsAt.first {index : Nat} (h : pattern.PartAt argument index name part) :
    StandsAt (pattern :: patterns) (argument :: arguments) (toLex (0, index)) name part :=
  ⟨pattern, argument, rfl, rfl, h⟩

theorem StandsAt.shift (h : StandsAt patterns arguments place name part) :
    StandsAt (pattern :: patterns) (argument :: arguments) place.shift name part := by
  obtain ⟨pattern', argument', hpattern, hargument, hpart⟩ := h
  exact ⟨pattern', argument', hpattern, hargument, hpart⟩

/-- The names at the places are the names of the patterns. -/
theorem exists_nameAt?_iff :
    (∃ place, nameAt? patterns place = some name) ↔ name ∈ patterns.flatMap names := by
  rw [List.mem_flatMap]
  constructor
  · rintro ⟨place, h⟩
    obtain ⟨pattern, hpattern, hname⟩ := Option.bind_eq_some_iff.mp h
    exact ⟨pattern, List.mem_of_getElem? hpattern, List.mem_of_getElem? hname⟩
  · rintro ⟨pattern, hpattern, hname⟩
    obtain ⟨parameter, hparameter⟩ := List.mem_iff_getElem?.mp hpattern
    obtain ⟨index, hindex⟩ := List.mem_iff_getElem?.mp hname
    exact ⟨toLex (parameter, index), Option.bind_eq_some_iff.mpr ⟨pattern, hparameter, hindex⟩⟩

end Places

/-! ## The last place of a name -/

/-- What is looked up from the end is the part with the last index of the name. -/
theorem exists_last_index {parts : List (String × Value)} {name : String} {part : Value}
    (h : parts.reverse.lookup name = some part) :
    ∃ index : Nat, parts[index]? = some (name, part) ∧
      ∀ later : Nat, (parts.map Prod.fst)[later]? = some name → later ≤ index := by
  -- The list is taken apart from its end, where the lookup begins.
  induction parts using List.reverseRecOn with
  | nil => contradiction
  | append_singleton parts entry ih =>
    rw [List.reverse_concat, List.lookup_cons] at h
    by_cases same : name = entry.1
    · -- The last entry has the name, and there is no index behind it.
      subst same
      rw [beq_self_eq_true] at h
      obtain rfl := Option.some.inj h
      refine ⟨parts.length, List.getElem?_concat_length, fun later found => ?_⟩
      have bound := (List.getElem?_eq_some_iff.mp found).1
      rw [List.length_map, List.length_append, List.length_singleton] at bound
      exact Nat.le_of_lt_succ bound
    · rw [beq_eq_false_iff_ne.mpr same] at h
      -- The last entry has another name, so every index of the name is one of the shorter list.
      obtain ⟨index, hindex, last⟩ := ih h
      have bound := (List.getElem?_eq_some_iff.mp hindex).1
      refine ⟨index, by rw [List.getElem?_append_left bound, hindex], fun later found => ?_⟩
      rw [List.map_append, List.getElem?_append] at found
      split at found
      · exact last later found
      · exact absurd (List.mem_singleton.mp (List.mem_of_getElem? found)) same

/-- **What a name is bound to is the part at its last place.** -/
theorem exists_last_place {patterns : List Pattern} {arguments : List Value}
    {parts : List (String × Value)} (h : partsAll? patterns arguments = some parts)
    {name : String} {part : Value} (found : parts.reverse.lookup name = some part) :
    ∃ place, StandsAt patterns arguments place name part ∧
      ∀ later, nameAt? patterns later = some name → later ≤ place := by
  fun_induction partsAll? patterns arguments generalizing parts with
  | case1 =>
    obtain rfl := Option.some.inj h
    contradiction
  | case2 pattern patterns argument arguments first others hothers hfirst ih =>
    obtain rfl := Option.some.inj h
    rw [List.reverse_append, List.lookup_append] at found
    cases behind : others.reverse.lookup name with
    | some value =>
      -- The name occurs behind the first pattern, and that is where its last place is.
      rw [behind, Option.some_or] at found
      obtain rfl := Option.some.inj found
      obtain ⟨place, stands, last⟩ := ih hothers behind
      refine ⟨_, stands.shift, ?_⟩
      rintro ⟨_ | parameter, index⟩ hlater
      · exact Prod.Lex.toLex_le_toLex.mpr (.inl (Nat.succ_pos _))
      · exact Place.shift_le_shift (last (toLex (parameter, index)) hlater)
    | none =>
      -- It occurs in the first pattern only.
      rw [behind, Option.none_or] at found
      obtain ⟨index, hindex, last⟩ := exists_last_index found
      rw [fst_parts? hfirst] at last
      refine ⟨_, .first (partAt_of_getElem? hfirst hindex), ?_⟩
      rintro ⟨_ | parameter, later⟩ hlater
      · exact Prod.Lex.toLex_le_toLex.mpr (.inr ⟨rfl, last later hlater⟩)
      · -- No pattern behind the first mentions the name.
        have mem := exists_nameAt?_iff.mp ⟨toLex (parameter, later), hlater⟩
        rw [← fst_partsAll? hothers] at mem
        obtain ⟨entry, inside, rfl⟩ := List.mem_map.mp mem
        have absent := List.lookup_eq_none_iff.mp behind entry (List.mem_reverse.mpr inside)
        rw [bne_self_eq_false] at absent
        contradiction
  | _ => contradiction

end Pattern

/-! ## Clauses -/

namespace Clause

variable {clause : Clause} {arguments : List Value} {bindings : Bindings} {name : String}

/-- A clause matches exactly if it takes as many arguments as there are and each of its parameters
accepts its argument. -/
theorem isSome_match?_iff : (clause.match? arguments).isSome ↔
    clause.arity = arguments.length ∧
      ∀ part ∈ clause.parameters.zip arguments, part.1.Accepts part.2 := by
  rw [match?, Option.isSome_map, Pattern.isSome_partsAll?_iff, List.forall₂_iff_zip,
    Prod.forall]
  rfl

/-- The names that a match binds are those of the parameters, except `_`. -/
theorem isSome_get?_iff_of_match? (h : clause.match? arguments = some bindings) :
    (bindings.get? name).isSome ↔
      name ≠ "_" ∧ name ∈ clause.parameters.flatMap Pattern.names := by
  refine ⟨fun bound => ?_, fun ⟨named, mem⟩ => get?_isSome_of_match? h mem named⟩
  obtain ⟨parts, hparts, rfl⟩ := Option.map_eq_some_iff.mp h
  obtain ⟨value, hvalue⟩ := Option.isSome_iff_exists.mp bound
  refine ⟨?_, ?_⟩
  · rintro rfl
    rw [Bindings.get?_ofParts, if_pos rfl] at hvalue
    contradiction
  · rw [← Pattern.fst_partsAll? hparts]
    exact List.mem_map_of_mem (Bindings.mem_of_get?_ofParts hvalue)

/-- A name that a match binds has a last place, and it is bound to the part there. -/
theorem exists_last_place_of_match? {value : Value} (h : clause.match? arguments = some bindings)
    (bound : bindings.get? name = some value) :
    ∃ place, Pattern.StandsAt clause.parameters arguments place name value ∧
      ∀ later, Pattern.nameAt? clause.parameters later = some name → later ≤ place := by
  obtain ⟨parts, hparts, rfl⟩ := Option.map_eq_some_iff.mp h
  rw [Bindings.get?_ofParts, Option.ite_none_left_eq_some] at bound
  exact Pattern.exists_last_place hparts bound.2

/-- **What a clause matches and what it binds.**

A clause matches exactly if it takes as many arguments as there are and each of its parameters
accepts its argument. A match binds the names that stand somewhere in the parameters, except `_`,
and no others. A name is bound to the part of the arguments for which it stands at the last of its
places, read from left to right. -/
theorem matching_exact (clause : Clause) (arguments : List Value) :
    ((clause.match? arguments).isSome ↔ clause.arity = arguments.length ∧
      ∀ part ∈ clause.parameters.zip arguments, part.1.Accepts part.2) ∧
    ∀ bindings, clause.match? arguments = some bindings →
      (∀ name, (bindings.get? name).isSome ↔
        name ≠ "_" ∧ ∃ place, Pattern.nameAt? clause.parameters place = some name) ∧
      ∀ name value, bindings.get? name = some value ↔
        name ≠ "_" ∧ ∃ place, Pattern.StandsAt clause.parameters arguments place name value ∧
          ∀ later, Pattern.nameAt? clause.parameters later = some name → later ≤ place := by
  refine ⟨isSome_match?_iff, fun bindings h => ⟨fun name => ?_, fun name value => ?_⟩⟩
  · rw [isSome_get?_iff_of_match? h, Pattern.exists_nameAt?_iff]
  · constructor
    · intro bound
      -- A bound name is never the wildcard.
      have named := (isSome_get?_iff_of_match? h).mp (Option.isSome_of_mem bound)
      exact ⟨named.1, exists_last_place_of_match? h bound⟩
    · rintro ⟨named, place, stands, last⟩
      -- The name is bound, and as there is only one last place, it is bound to the part there.
      have mem := Pattern.exists_nameAt?_iff.mp ⟨place, stands.nameAt?⟩
      obtain ⟨value', bound⟩ := Option.isSome_iff_exists.mp (get?_isSome_of_match? h mem named)
      obtain ⟨place', stands', last'⟩ := exists_last_place_of_match? h bound
      obtain rfl := le_antisymm (last' place stands.nameAt?) (last place' stands'.nameAt?)
      rw [bound, stands.unique stands']

/-- The clause `f (x:_) [x, y] [] = x`. The name `x` stands in two parameters. -/
def repeatedName : Clause where
  parameters := [.cons "x" "_", .elements ["x", "y"], .emptyList]
  body := .variable "x"

/-- Arguments that this clause accepts. -/
def repeatedNameArguments : List Value :=
  [.list [.string "a", .string "b"], .list [.string "c", .string "d"], .list []]

/-- The name `x` is bound to the first element of the second list, and `_` is not bound. -/
theorem matching_exact_repeatedName :
    ∃ bindings, repeatedName.match? repeatedNameArguments = some bindings ∧
      bindings.get? "x" = some (.string "c") ∧ ¬ (bindings.get? "_").isSome := by
  obtain ⟨bindings, h⟩ : ∃ bindings, repeatedName.match? repeatedNameArguments = some bindings :=
    ⟨_, rfl⟩
  obtain ⟨bound, part⟩ := (matching_exact repeatedName repeatedNameArguments).2 bindings h
  refine ⟨bindings, h, (part "x" (.string "c")).mpr ⟨by decide, toLex (1, 0), ?_, ?_⟩, ?_⟩
  · exact ⟨_, _, rfl, rfl, .element rfl rfl⟩
  -- Of the three parameters, the second is the last one that has the name, and has it first.
  · rintro ⟨_ | _ | _ | parameter, index⟩ hlater
    · exact Prod.Lex.toLex_le_toLex.mpr (.inl Nat.zero_lt_one)
    · match index, hlater with
      | 0, _ => exact le_rfl
      | 1, hlater => exact absurd hlater (by decide)
    · contradiction
    · contradiction
  · rw [bound]
    exact fun named => named.1 rfl

end Clause

end Clausal
