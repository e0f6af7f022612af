import Clausal.Text.Blank
import Mathlib.Data.List.TakeWhile

/-!
# What trimming leaves

A text without a blank at its start is trimmed at its end only, and a trimmed text has no blank
at its start. A text with no blank at either end is left as it is, and further blanks around a text
make no difference.
-/

namespace Clausal.Text

/-- A trimmed text is what stands before the blanks at the end. -/
theorem exists_trimEnd_append (text : List Char) :
    ∃ blanks, text = trimEnd text ++ blanks ∧ ∀ c ∈ blanks, isBlank c = true := by
  refine ⟨(text.reverse.takeWhile isBlank).reverse, ?_, ?_⟩
  · rw [trimEnd, ← List.reverse_append, List.takeWhile_append_dropWhile, List.reverse_reverse]
  · intro c mem
    exact List.mem_takeWhile_imp (List.mem_reverse.mp mem)

/-- The blanks at the end of a text reach back into what stands in front only if all of it is
blank. -/
theorem trimEnd_append (front text : List Char) :
    trimEnd (front ++ text) =
      if trimEnd text = [] then trimEnd front else front ++ trimEnd text := by
  unfold trimEnd
  rw [List.reverse_append, List.dropWhile_append]
  -- From the end, trimming passes into the front only if the whole text is dropped.
  by_cases nothing : text.reverse.dropWhile isBlank = []
  · simp [nothing]
  · rw [if_neg (by rwa [List.isEmpty_iff]), if_neg (by rwa [List.reverse_eq_nil_iff]),
      List.reverse_append, List.reverse_reverse]

/-- Nothing is left of blanks. -/
theorem trimEnd_of_isBlank {text : List Char} (h : ∀ c ∈ text, isBlank c = true) :
    trimEnd text = [] := by
  rw [trimEnd, List.dropWhile_eq_nil_iff.mpr fun c mem => h c (List.mem_reverse.mp mem),
    List.reverse_nil]

theorem trimEnd_cons (c : Char) (text : List Char) :
    trimEnd (c :: text) =
      if trimEnd text = [] ∧ isBlank c = true then [] else c :: trimEnd text := by
  rw [← List.singleton_append, trimEnd_append]
  by_cases blank : isBlank c = true <;> simp [trimEnd, blank]

/-- What stands in front of a character that is no blank is left as it is. -/
theorem trimEnd_append_cons {c : Char} (visible : isBlank c = false) (front text : List Char) :
    trimEnd (front ++ c :: text) = front ++ c :: trimEnd text := by
  rw [trimEnd_append, trimEnd_cons]
  simp [visible]

theorem head?_trimEnd {text : List Char} {c : Char} (h : (trimEnd text).head? = some c) :
    text.head? = some c := by
  obtain ⟨blanks, htext, -⟩ := exists_trimEnd_append text
  rw [htext, List.head?_append, h, Option.some_or]

/-- A trimmed text has no blank at its start. -/
theorem not_isBlank_head?_trim {text : List Char} {c : Char} (h : (trim text).head? = some c) :
    isBlank c = false := by
  have start := List.head?_dropWhile_not isBlank text
  rw [← trimStart, head?_trimEnd h] at start
  simpa using start

theorem trimStart_eq_self {text : List Char}
    (h : ∀ c, text.head? = some c → isBlank c = false) : trimStart text = text := by
  cases text with
  | nil => rfl
  | cons c rest => exact List.dropWhile_cons_of_neg (by simp [h c rfl])

/-- A text without a blank at its start is what trimming leaves of it, followed by blanks. -/
theorem exists_trim_append {text : List Char}
    (h : ∀ c, text.head? = some c → isBlank c = false) :
    ∃ blanks, text = trim text ++ blanks ∧ ∀ c ∈ blanks, isBlank c = true := by
  rw [trim, trimStart_eq_self h]
  exact exists_trimEnd_append text

/-- A text with a character that is no blank is not trimmed to nothing. -/
theorem trim_ne_nil {text : List Char} {c : Char} (mem : c ∈ text) (visible : isBlank c = false) :
    trim text ≠ [] := by
  intro nothing
  obtain ⟨blanks, hstart, blank⟩ := exists_trimEnd_append (trimStart text)
  rw [← trim, nothing, List.nil_append] at hstart
  -- All that trimming drops is blank, at the start as at the end.
  have dropped : isBlank c = true := by
    rw [← List.takeWhile_append_dropWhile (p := isBlank) (l := text), List.mem_append] at mem
    rcases mem with mem | mem
    · exact List.mem_takeWhile_imp mem
    · exact blank c (hstart ▸ mem)
  simp [visible] at dropped

/-- Blanks in front make no difference to a trimmed text. -/
theorem trim_blanks_append {blanks : List Char} (h : ∀ c ∈ blanks, isBlank c = true)
    (text : List Char) : trim (blanks ++ text) = trim text := by
  rw [trim, trimStart, List.dropWhile_append_of_pos h]
  rfl

/-- Blanks at the end make no difference to a trimmed text. -/
theorem trim_append_blanks {blanks : List Char} (h : ∀ c ∈ blanks, isBlank c = true)
    (text : List Char) : trim (text ++ blanks) = trim text := by
  unfold trim trimStart trimEnd
  rw [List.dropWhile_append]
  -- The text is all blank, or something of it is left.
  split
  · rename_i nothing
    rw [List.isEmpty_iff.mp nothing, List.dropWhile_eq_nil_iff.mpr h]
  · rw [List.reverse_append,
      List.dropWhile_append_of_pos fun c mem => h c (List.mem_reverse.mp mem)]

/-- A text with no blank at either end is trimmed already. -/
theorem trim_eq_self {text : List Char}
    (first : ∀ c, text.head? = some c → isBlank c = false)
    (last : ∀ c, text.getLast? = some c → isBlank c = false) : trim text = text := by
  have backwards : trimStart text.reverse = text.reverse :=
    trimStart_eq_self (by simpa [List.head?_reverse] using last)
  rw [trim, trimStart_eq_self first, trimEnd, ← trimStart, backwards, List.reverse_reverse]

end Clausal.Text
