import Clausal.Text.Blank

/-!
# The items of a bracketed list

The raw text between square brackets is cut into items at the commas that stand outside every
string and every bracket. Brackets of both kinds count alike here, and a closing bracket
without an opening one counts below zero.

Main statement: together with the commas between them, the items are no longer than the text.
-/

namespace Clausal.Token

open Text

/-- How a character outside strings changes the depth of brackets. The depth is an integer without
bounds: a counter of 32 bits would differ from it only in a text that opens or closes more than
`2^31` brackets. -/
def depthChange (c : Char) : Int :=
  if c = '[' ∨ c = '(' then 1
  else if c = ']' ∨ c = ')' then -1
  else 0

/-- A list of pieces with one more character at the start of the first piece. -/
def prepend (c : Char) : List (List Char) → List (List Char)
  | [] => [[c]]
  | piece :: pieces => (c :: piece) :: pieces

/-- The pieces of a text between the commas at depth zero outside strings. There is one piece
more than there are such commas. The depth is counted without bounds, as in `depthChange`. -/
def pieces (depth : Int) (inString : Bool) : List Char → List (List Char)
  | [] => [[]]
  | c :: rest =>
    if c = '"' then prepend c (pieces depth (!inString) rest)
    else if inString then prepend c (pieces depth true rest)
    else if c = ',' ∧ depth = 0 then [] :: pieces 0 false rest
    else prepend c (pieces (depth + depthChange c) false rest)

/-- The items of a list, each without blanks at its ends. A blank text has no items. -/
def items (inner : List Char) : List (List Char) :=
  if (trim inner).isEmpty then [] else (pieces 0 false inner).map trim

/-! ## Lengths -/

/-- The length of some items, each counted with the comma that follows it. -/
def itemsLength : List (List Char) → Nat
  | [] => 0
  | item :: items => item.length + 1 + itemsLength items

@[simp]
theorem itemsLength_nil : itemsLength [] = 0 := rfl

@[simp]
theorem itemsLength_cons (item : List Char) (items : List (List Char)) :
    itemsLength (item :: items) = item.length + 1 + itemsLength items := rfl

theorem itemsLength_pieces (depth : Int) (inString : Bool) (text : List Char) :
    pieces depth inString text ≠ [] ∧
      itemsLength (pieces depth inString text) = text.length + 1 := by
  have step (c : Char) (ps : List (List Char)) (h : ps ≠ []) :
      prepend c ps ≠ [] ∧ itemsLength (prepend c ps) = itemsLength ps + 1 := by
    cases ps with
    | nil => exact absurd rfl h
    | cons p ps => exact ⟨by simp [prepend], by simp [prepend]; omega⟩
  fun_induction pieces depth inString text with
  | case1 => simp
  | case2 _ _ _ ih => have := step '"' _ ih.1; simp only [List.length_cons]; grind
  | case3 _ c _ _ ih => have := step c _ ih.1; simp only [List.length_cons]; grind
  | case4 => simp_all; omega
  | case5 _ _ c _ _ _ _ ih => have := step c _ ih.1; simp only [List.length_cons]; grind

theorem itemsLength_map_trim_le (items : List (List Char)) :
    itemsLength (items.map trim) ≤ itemsLength items := by
  induction items with
  | nil => simp
  | cons item items ih =>
    have := length_trim_le item
    simp only [List.map_cons, itemsLength_cons]
    omega

/-- Counted with one comma each, the items are at most one longer than the text: the last of
them has no comma. -/
theorem itemsLength_items_le (inner : List Char) :
    itemsLength (items inner) ≤ inner.length + 1 := by
  unfold items
  split
  · simp
  · exact Nat.le_trans (itemsLength_map_trim_le _)
      (Nat.le_of_eq (itemsLength_pieces 0 false inner).2)

end Clausal.Token
