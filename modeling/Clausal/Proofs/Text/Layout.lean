import Clausal.Proofs.Text.Blank

/-!
# Layout

The layout of a text is its spaces, tabs, carriage returns and newlines. Inside of strings they are
characters like any other. Outside of them all that should matter is where some layout stands, and
not which or how much.

Main statements:
* `Respaced`: two texts that differ in nothing but their layout;
* `respaced_singleSpaced`: a text and the same text with single spaces for its layout;
* `Respaced.take`, `Respaced.trim`: such texts agree up to their first layout or string, and stay
  such texts when the blanks around them are dropped.
-/

namespace Clausal.Text

/-- The characters of layout. -/
def layoutChars : List Char :=
  [' ', '\t', '\r', '\n']

def isLayout (c : Char) : Bool :=
  layoutChars.contains c

/-- A text with one space for each maximal run of layout outside of strings. A quote opens a string,
and the next quote or the end of the text closes it. `inString` tells whether the text starts inside
of a string. -/
def singleSpaced (inString : Bool) : List Char → List Char
  | [] => []
  | c :: rest =>
    if inString then c :: singleSpaced (c != '"') rest
    else if isLayout c then ' ' :: singleSpaced false (rest.dropWhile isLayout)
    else c :: singleSpaced (c == '"') rest
termination_by text => text.length
decreasing_by
  · simp
  · have := (List.dropWhile_suffix isLayout (l := rest)).length_le
    simp only [List.length_cons]
    omega
  · simp

/-- A text with one space for each maximal run of its layout, its strings left as they are. -/
def respace (text : String) : String :=
  String.ofList (singleSpaced false text.toList)

/-- A stretch of layout that is not empty. -/
structure IsRun (run : List Char) : Prop where
  nonempty : run ≠ []
  layout : ∀ c ∈ run, isLayout c = true

/-- `Respaced text other`: the two texts differ in nothing but their layout. Outside of strings,
where the one has some layout the other has some too, and all the rest is the same. -/
inductive Respaced : List Char → List Char → Prop where
  | nil : Respaced [] []
  | char {c : Char} {text other : List Char} :
      isLayout c = false → c ≠ '"' → Respaced text other → Respaced (c :: text) (c :: other)
  | layout {run otherRun text other : List Char} :
      IsRun run → IsRun otherRun → Respaced text other →
      Respaced (run ++ text) (otherRun ++ other)
  | string {inside text other : List Char} :
      '"' ∉ inside → Respaced text other →
      Respaced ('"' :: inside ++ '"' :: text) ('"' :: inside ++ '"' :: other)
  | openString {inside : List Char} :
      '"' ∉ inside → Respaced ('"' :: inside) ('"' :: inside)

section Layout

variable {c : Char} {run text other inside : List Char} {p : Char → Bool}

/-- What holds of the four characters holds of layout. -/
theorem of_isLayout (each : layoutChars.all p = true) (h : isLayout c = true) : p c = true :=
  List.all_eq_true.mp each c (List.contains_iff_mem.mp h)

theorem not_of_isLayout (outside : layoutChars.all (fun d => !p d) = true)
    (h : isLayout c = true) : p c = false := by
  simpa using of_isLayout outside h

theorem isBlank_of_isLayout (h : isLayout c = true) : isBlank c = true :=
  of_isLayout (by decide) h

theorem IsRun.isBlank (h : IsRun run) : ∀ c ∈ run, isBlank c = true :=
  fun c mem => isBlank_of_isLayout (h.layout c mem)

/-- A run starts with layout. -/
theorem IsRun.exists_cons (h : IsRun run) : ∃ c rest, run = c :: rest ∧ isLayout c = true := by
  obtain ⟨c, rest, rfl⟩ := List.exists_cons_of_ne_nil h.nonempty
  exact ⟨c, rest, rfl, h.layout c List.mem_cons_self⟩

/-! ## Single spaces -/

/-- A string that is closed is left as it is. -/
theorem singleSpaced_string (closed : '"' ∉ inside) (text : List Char) :
    singleSpaced true (inside ++ '"' :: text) = inside ++ '"' :: singleSpaced false text := by
  induction inside with
  | nil => rw [List.nil_append, singleSpaced, if_pos rfl, bne_self_eq_false, List.nil_append]
  | cons c inside ih =>
    rw [List.mem_cons, not_or] at closed
    rw [List.cons_append, singleSpaced, if_pos rfl, bne_iff_ne.mpr (Ne.symm closed.1),
      ih closed.2, List.cons_append]

/-- A string that runs to the end of the text is left as it is. -/
theorem singleSpaced_openString (h : '"' ∉ inside) : singleSpaced true inside = inside := by
  induction inside with
  | nil => rw [singleSpaced]
  | cons c inside ih =>
    rw [List.mem_cons, not_or] at h
    rw [singleSpaced, if_pos rfl, bne_iff_ne.mpr (Ne.symm h.1), ih h.2]

/-- **With single spaces for its layout, a text differs in nothing but its layout.** -/
theorem respaced_singleSpaced (text : List Char) : Respaced (singleSpaced false text) text := by
  match text with
  | [] =>
    rw [singleSpaced]
    exact .nil
  | c :: rest =>
    rw [singleSpaced, if_neg Bool.false_ne_true]
    split
    · rename_i space
      -- The run reaches as far as the layout does.
      have first : IsRun [' '] := ⟨List.cons_ne_nil _ _, List.all_eq_true.mp (by decide)⟩
      have whole : IsRun (c :: rest.takeWhile isLayout) :=
        ⟨List.cons_ne_nil _ _, List.forall_mem_cons.mpr ⟨space, fun d => List.mem_takeWhile_imp⟩⟩
      have split : c :: rest.takeWhile isLayout ++ rest.dropWhile isLayout = c :: rest :=
        congrArg (c :: ·) List.takeWhile_append_dropWhile
      have h := Respaced.layout first whole (respaced_singleSpaced (rest.dropWhile isLayout))
      rwa [split] at h
    · rename_i visible
      rw [Bool.not_eq_true] at visible
      by_cases quote : c = '"'
      · subst quote
        rw [beq_self_eq_true]
        -- Up to its end, a string is copied.
        by_cases closed : '"' ∈ rest
        · obtain ⟨inside, after, hrest, free⟩ := List.eq_append_cons_of_mem closed
          have shorter : after.length < rest.length := by
            rw [hrest, List.length_append, List.length_cons]
            omega
          rw [hrest, singleSpaced_string free]
          exact .string free (respaced_singleSpaced after)
        · rw [singleSpaced_openString closed]
          exact .openString closed
      · rw [beq_eq_false_iff_ne.mpr quote]
        exact .char visible quote (respaced_singleSpaced rest)
termination_by text.length
decreasing_by
  all_goals have := (List.dropWhile_suffix isLayout (l := rest)).length_le
  all_goals simp only [List.length_cons]; omega

/-- Neither a closed string nor one that nothing closes is changed. -/
example : respace "\t[ 1,\r\n  \"a  b\"\n] \" \t" = " [ 1, \"a  b\" ] \" \t" := by
  decide +kernel

namespace Respaced

theorem symm (h : Respaced text other) : Respaced other text := by
  induction h with
  | nil => exact .nil
  | char visible noQuote _ ih => exact .char visible noQuote ih
  | layout run otherRun _ ih => exact .layout otherRun run ih
  | string closed _ ih => exact .string closed ih
  | openString closed => exact .openString closed

theorem eq_nil_iff (h : Respaced text other) : text = [] ↔ other = [] := by
  cases h with
  | layout run otherRun => simp [run.nonempty, otherRun.nonempty]
  | _ => simp

/-! ## The start of a text -/

/-- Up to the first layout or string the texts are the same. -/
theorem take {n : Nat} (h : Respaced text other)
    (plain : ∀ c ∈ text.take n, isLayout c = false ∧ c ≠ '"') :
    other.take n = text.take n ∧ Respaced (text.drop n) (other.drop n) := by
  -- By induction on the number, since layout and strings come in more than one character.
  induction n generalizing text other with
  | zero => exact ⟨rfl, h⟩
  | succ n ih =>
    cases h with
    | nil => exact ⟨rfl, .nil⟩
    | char _ _ h =>
      rw [List.take_succ_cons, List.forall_mem_cons] at plain
      obtain ⟨same, after⟩ := ih h plain.2
      exact ⟨by rw [List.take_succ_cons, List.take_succ_cons, same], after⟩
    -- Layout would be the first character taken, and by assumption it is none.
    | layout run =>
      obtain ⟨c, rest, rfl, space⟩ := run.exists_cons
      have visible := (plain c List.mem_cons_self).1
      rw [space] at visible
      contradiction
    | string | openString => exact absurd rfl (plain '"' List.mem_cons_self).2

/-- A class of characters without layout and quotes has the same run at the start of the texts, and
what follows it differs in nothing but its layout. -/
theorem span (h : Respaced text other)
    (outside : ('"' :: layoutChars).all (fun c => !p c) = true) :
    other.takeWhile p = text.takeWhile p ∧ Respaced (text.dropWhile p) (other.dropWhile p) := by
  rw [List.all_cons, Bool.and_eq_true, Bool.not_eq_true'] at outside
  -- A character outside of the class ends the run, and so do layout and strings.
  have stop {c : Char} (hc : p c = false) (rest : List Char) :
      (c :: rest).takeWhile p = [] ∧ (c :: rest).dropWhile p = c :: rest := by
    simp [hc]
  have stopRun {run : List Char} (hrun : IsRun run) (text : List Char) :
      (run ++ text).takeWhile p = [] ∧ (run ++ text).dropWhile p = run ++ text := by
    obtain ⟨c, rest, rfl, space⟩ := hrun.exists_cons
    exact stop (not_of_isLayout outside.2 space) _
  induction h with
  | nil => exact ⟨rfl, .nil⟩
  | @char c text other visible noQuote h ih =>
    by_cases hc : p c = true
    · rw [List.takeWhile_cons_of_pos hc, List.takeWhile_cons_of_pos hc,
        List.dropWhile_cons_of_pos hc, List.dropWhile_cons_of_pos hc, ih.1]
      exact ⟨rfl, ih.2⟩
    · rw [Bool.not_eq_true] at hc
      rw [(stop hc _).1, (stop hc _).1, (stop hc _).2, (stop hc _).2]
      exact ⟨rfl, .char visible noQuote h⟩
  | layout run otherRun h =>
    rw [(stopRun run _).1, (stopRun otherRun _).1, (stopRun run _).2, (stopRun otherRun _).2]
    exact ⟨rfl, .layout run otherRun h⟩
  | string closed h =>
    rw [List.cons_append, List.cons_append, (stop outside.1 _).1, (stop outside.1 _).1,
      (stop outside.1 _).2, (stop outside.1 _).2]
    exact ⟨rfl, .string closed h⟩
  | openString closed =>
    rw [(stop outside.1 _).1, (stop outside.1 _).2]
    exact ⟨rfl, .openString closed⟩

/-- The first characters of the texts are the same, unless they are layout. -/
theorem head?_any (h : Respaced text other)
    (outside : layoutChars.all (fun c => !p c) = true) :
    other.head?.any p = text.head?.any p := by
  cases h with
  | layout run otherRun =>
    obtain ⟨c, rest, rfl, space⟩ := run.exists_cons
    obtain ⟨d, others, rfl, otherSpace⟩ := otherRun.exists_cons
    simp [not_of_isLayout outside space, not_of_isLayout outside otherSpace]
  | _ => rfl

/-! ## Trimming -/

theorem trimStart (h : Respaced text other) : Respaced (trimStart text) (trimStart other) := by
  induction h with
  | nil => exact .nil
  -- Some blanks are not layout. They are dropped all the same.
  | @char c text other visible noQuote h ih =>
    by_cases blank : isBlank c = true
    · rwa [Text.trimStart, Text.trimStart, List.dropWhile_cons_of_pos blank,
        List.dropWhile_cons_of_pos blank]
    · rw [Text.trimStart, Text.trimStart, List.dropWhile_cons_of_neg blank,
        List.dropWhile_cons_of_neg blank]
      exact .char visible noQuote h
  | layout run otherRun _ ih =>
    rwa [Text.trimStart, Text.trimStart, List.dropWhile_append_of_pos run.isBlank,
      List.dropWhile_append_of_pos otherRun.isBlank]
  | string closed h _ => exact .string closed h
  | openString closed => exact .openString closed

theorem trimEnd (h : Respaced text other) : Respaced (trimEnd text) (trimEnd other) := by
  induction h with
  | nil => exact .nil
  | @char c text other visible noQuote _ ih =>
    -- The character is dropped only if nothing is left behind it, in both texts or in neither.
    rw [trimEnd_cons, trimEnd_cons]
    simp only [ih.eq_nil_iff]
    split
    · exact .nil
    · exact .char visible noQuote ih
  | layout run otherRun _ ih =>
    -- Either something visible follows, or the runs are dropped as a whole.
    rw [trimEnd_append, trimEnd_append, trimEnd_of_isBlank run.isBlank,
      trimEnd_of_isBlank otherRun.isBlank]
    simp only [ih.eq_nil_iff]
    split
    · exact .nil
    · exact .layout run otherRun ih
  | string closed _ ih =>
    rw [trimEnd_append_cons (by decide), trimEnd_append_cons (by decide)]
    exact .string closed ih
  | @openString inside closed =>
    -- Trimming reaches into a string that nothing closes, and there the texts are the same.
    rw [← List.nil_append ('"' :: inside), trimEnd_append_cons (by decide)]
    refine .openString fun mem => closed ?_
    obtain ⟨blanks, hinside, -⟩ := exists_trimEnd_append inside
    rw [hinside]
    exact List.mem_append_left blanks mem

/-- Without the blanks around them, the texts still differ in nothing but their layout. -/
theorem trim (h : Respaced text other) : Respaced (trim text) (trim other) :=
  h.trimStart.trimEnd

end Respaced

end Layout

end Clausal.Text
