import Clausal.Text.Lines
import Mathlib.Data.List.InsertIdx

/-!
# Lines added and deleted

A line feed ends a line whatever follows it, so a text can be put together from texts whose lines
are ended, and a line can be taken out of a text together with its end.

Main statements:
* `linesFrom_append`, `lines_append`: what stands behind a line feed has lines of its own;
* `lines_withoutLine`: deleting a line from a text leaves the other lines as they are.
-/

namespace Clausal.Text

/-! ## Texts put together -/

/-- A line feed ends a line, whatever follows it. -/
theorem linesFrom_append (line first second : List Char) :
    linesFrom line (first ++ '\n' :: second) =
      linesFrom line (first ++ ['\n']) ++ linesFrom [] second := by
  induction first generalizing line with
  | nil => rfl
  | cons c first ih =>
    by_cases h : c = '\n'
    · subst h
      simp only [List.cons_append, linesFrom, ih]
    · simp only [List.cons_append, linesFrom, ih]

theorem linesFrom_of_not_mem {line text : List Char} (h : '\n' ∉ text) (rest : List Char) :
    linesFrom line (text ++ rest) = linesFrom (text.reverse ++ line) rest := by
  induction text generalizing line with
  | nil => rfl
  | cons c text ih =>
    rw [List.mem_cons, not_or] at h
    have differs : c ≠ '\n' := fun same => h.1 same.symm
    -- The line that is being read is kept in reverse.
    simp only [List.cons_append, linesFrom, ih h.2, List.reverse_cons, List.append_assoc,
      List.nil_append]

/-- A text whose last line is ended has its lines before those of what follows. -/
theorem lines_append {first : String} (ended : first.toList.getLast? = some '\n')
    (second : String) : lines (first ++ second) = lines first ++ lines second := by
  obtain ⟨init, hfirst⟩ := List.getLast?_eq_some_iff.mp ended
  rw [lines, lines, lines, String.toList_append, hfirst, List.append_assoc, List.singleton_append,
    linesFrom_append, List.map_append]

/-! ## A line deleted -/

/-- A text without the line at a place, counted from zero, and without the end of this line. -/
def dropLine : Nat → List Char → List Char
  | _, [] => []
  | 0, c :: rest => if c = '\n' then rest else dropLine 0 rest
  | index + 1, c :: rest =>
    if c = '\n' then c :: dropLine index rest else c :: dropLine (index + 1) rest

/-- The same on strings. -/
def withoutLine (index : Nat) (text : String) : String :=
  String.ofList (dropLine index text.toList)

/-- Whatever was read of the first line before, it is deleted with what is left of the line. -/
theorem linesFrom_dropLine_zero (line text : List Char) :
    linesFrom [] (dropLine 0 text) = (linesFrom line text).tail := by
  induction text generalizing line with
  | nil => cases line <;> rfl
  | cons c text ih =>
    by_cases h : c = '\n'
    · subst h
      rfl
    · rw [dropLine, if_neg h, ih (c :: line)]
      simp only [linesFrom]

theorem linesFrom_dropLine_succ (index : Nat) (line text : List Char) :
    linesFrom line (dropLine (index + 1) text) = (linesFrom line text).eraseIdx (index + 1) := by
  induction text generalizing index line with
  | nil => cases line <;> rfl
  | cons c text ih =>
    by_cases h : c = '\n'
    · subst h
      rw [dropLine, if_pos rfl]
      simp only [linesFrom, List.eraseIdx_cons_succ]
      -- The line feed ends the line, so the deleted one is counted from the next.
      cases index with
      | zero => rw [linesFrom_dropLine_zero [] text, List.eraseIdx_zero]
      | succ index => rw [ih]
    · rw [dropLine, if_neg h]
      simp only [linesFrom, ih]

/-- **Deleting a line from a text leaves the other lines as they are.** -/
theorem lines_withoutLine (index : Nat) (text : String) :
    lines (withoutLine index text) = (lines text).eraseIdx index := by
  rw [lines, lines, withoutLine, String.toList_ofList, List.eraseIdx_map]
  cases index with
  | zero => rw [linesFrom_dropLine_zero [], List.eraseIdx_zero]
  | succ index => rw [linesFrom_dropLine_succ]

end Clausal.Text
