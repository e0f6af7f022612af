import Clausal.Proofs.Token.Nesting

/-!
# Checking that a text is properly nested

One pass over a text finds whether it is properly nested. Of what it has passed, it keeps the
brackets that are still open, the innermost first, and whether it stands in a string.

Main statements:
* `Closes`: what the brackets that are open still demand of a text;
* `isNestedFrom_iff`: the pass finds whether a text is properly nested, which is thus decidable.
-/

namespace Clausal.Token

open Text

/-- What may not stand here: the stops count outside of all brackets only. -/
def stopsWithin (stops : List Char) : List Bracket → List Char
  | [] => stops
  | _ :: _ => []

/-- Whether a text closes the brackets that are open, and is properly nested otherwise. -/
def isNestedFrom (brackets : List Bracket) (stops : List Char) :
    List Bracket → Bool → List Char → Bool
  | waiting, inString, [] => waiting.isEmpty && !inString
  | waiting, true, c :: rest => isNestedFrom brackets stops waiting (c != '"') rest
  | waiting, false, c :: rest =>
    if c = '"' then isNestedFrom brackets stops waiting true rest
    else match brackets.find? (·.opener == c), brackets.find? (·.closer == c) with
      | some bracket, _ => isNestedFrom brackets stops (bracket :: waiting) false rest
      | none, some bracket =>
        waiting.head? == some bracket && isNestedFrom brackets stops waiting.tail false rest
      | none, none =>
        decide (c ∉ stopsWithin stops waiting) && isNestedFrom brackets stops waiting false rest

/-- What the brackets that are open, the innermost first, still demand of a text: their partners, in
this order, with properly nested text in front of each and after the last. -/
def Closes (brackets : List Bracket) (stops : List Char) : List Bracket → List Char → Prop
  | [], text => Nested brackets stops text
  | bracket :: others, text => ∃ inner rest, text = inner ++ bracket.closer :: rest ∧
      Nested brackets [] inner ∧ Closes brackets stops others rest

/-- What is demanded behind the end of the string, if the text starts in one. -/
def ClosesBehind (brackets : List Bracket) (stops : List Char) (waiting : List Bracket) :
    Bool → List Char → Prop
  | false, text => Closes brackets stops waiting text
  | true, text => ∃ inside rest, text = inside ++ '"' :: rest ∧ '"' ∉ inside ∧
      Closes brackets stops waiting rest

section Balance

variable {brackets waiting : List Bracket} {bracket : Bracket} {stops front text rest : List Char}
  {c : Char}

/-! ## One character -/

theorem Bracket.opener_injective : Function.Injective opener := by
  intro bracket other same
  cases bracket <;> cases other <;> first | rfl | exact absurd same (by decide)

theorem Bracket.closer_injective : Function.Injective closer := by
  intro bracket other same
  cases bracket <;> cases other <;> first | rfl | exact absurd same (by decide)

theorem Bracket.opener_ne_closer (bracket other : Bracket) : bracket.opener ≠ other.closer := by
  cases bracket <;> cases other <;> decide

theorem find?_bracket {side : Bracket → Char} (injective : Function.Injective side)
    (mem : bracket ∈ brackets) : brackets.find? (side · == side bracket) = some bracket := by
  cases found : brackets.find? (side · == side bracket) with
  | none => simpa using List.find?_eq_none.mp found bracket mem
  | some other =>
    have same := List.find?_some found
    rw [beq_iff_eq] at same
    rw [injective same]

theorem find?_eq_none_of_ne {side : Bracket → Char} (h : ∀ bracket ∈ brackets, c ≠ side bracket) :
    brackets.find? (side · == c) = none := by
  rw [List.find?_eq_none]
  intro bracket mem
  simpa using (h bracket mem).symm

theorem isNestedFrom_string (closed : '"' ∉ text) :
    isNestedFrom brackets stops waiting true (text ++ '"' :: rest) =
      isNestedFrom brackets stops waiting false rest := by
  induction text with
  | nil => rw [List.nil_append, isNestedFrom]; rfl
  | cons c text ih =>
    rw [List.mem_cons, not_or] at closed
    rw [List.cons_append, isNestedFrom, bne_iff_ne.mpr (Ne.symm closed.1), ih closed.2]

theorem isNestedFrom_opener (mem : bracket ∈ brackets) :
    isNestedFrom brackets stops waiting false (bracket.opener :: rest) =
      isNestedFrom brackets stops (bracket :: waiting) false rest := by
  rw [isNestedFrom, if_neg bracket.opener_ne_quote,
    find?_bracket Bracket.opener_injective mem]

theorem isNestedFrom_closer (mem : bracket ∈ brackets) :
    isNestedFrom brackets stops (bracket :: waiting) false (bracket.closer :: rest) =
      isNestedFrom brackets stops waiting false rest := by
  have noOpener : brackets.find? (·.opener == bracket.closer) = none :=
    find?_eq_none_of_ne fun other _ => (other.opener_ne_closer bracket).symm
  rw [isNestedFrom, if_neg bracket.closer_ne_quote, noOpener,
    find?_bracket Bracket.closer_injective mem]
  simp

theorem isNestedFrom_plain (plain : Plain brackets c) (free : c ∉ stopsWithin stops waiting) :
    isNestedFrom brackets stops waiting false (c :: rest) =
      isNestedFrom brackets stops waiting false rest := by
  rw [isNestedFrom, if_neg plain.1, find?_eq_none_of_ne fun other mem => (plain.2 other mem).1,
    find?_eq_none_of_ne fun other mem => (plain.2 other mem).2]
  simp [free]

/-! ## Properly nested text passes -/

/-- Properly nested text is passed over, whichever brackets are open. -/
theorem isNestedFrom_append (h : Nested brackets (stopsWithin stops waiting) front)
    (rest : List Char) :
    isNestedFrom brackets stops waiting false (front ++ rest) =
      isNestedFrom brackets stops waiting false rest := by
  -- The stops depend on whether a bracket is open, so they are kept by an equation.
  generalize here : stopsWithin stops waiting = within at h
  induction h generalizing waiting rest with
  | nil => rfl
  | char plain free _ ih =>
    rw [List.cons_append, isNestedFrom_plain plain (here ▸ free), ih rest here]
  | @string _ text after closed _ ih =>
    rw [List.append_assoc, List.cons_append, List.cons_append, isNestedFrom, if_pos rfl,
      isNestedFrom_string closed, ih rest here]
  | @bracket _ inner after bracket mem _ _ ihInner ihRest =>
    -- Inside the bracket there are no stops.
    have inside := @ihInner (bracket :: waiting) (bracket.closer :: (after ++ rest)) rfl
    rw [List.append_assoc, List.cons_append, List.cons_append, isNestedFrom_opener mem, inside,
      isNestedFrom_closer mem, ihRest rest here]

/-! ## What passes is properly nested -/

/-- Properly nested text in front meets no demand. -/
theorem Closes.append (hfront : Nested brackets (stopsWithin stops waiting) front)
    (h : Closes brackets stops waiting text) : Closes brackets stops waiting (front ++ text) := by
  cases waiting with
  | nil => exact Nested.append hfront h
  | cons bracket others =>
    obtain ⟨inner, rest, rfl, nested, after⟩ := h
    exact ⟨front ++ inner, rest, (List.append_assoc _ _ _).symm, hfront.append nested, after⟩

/-- What passes meets the demand of the brackets that are open, behind the end of the string if it
starts in one. -/
theorem closesBehind_of_isNestedFrom {inString : Bool}
    (h : isNestedFrom brackets stops waiting inString text = true) :
    ClosesBehind brackets stops waiting inString text := by
  -- One case for each branch of the pass
  fun_induction isNestedFrom brackets stops waiting inString text with
  | case1 waiting inString =>
    -- The end of the text: nothing may be open.
    rw [Bool.and_eq_true, List.isEmpty_iff, Bool.not_eq_true'] at h
    obtain ⟨rfl, rfl⟩ := h
    exact Nested.nil
  | case2 waiting c rest ih =>
    have after := ih h
    by_cases quote : c = '"'
    · subst quote
      exact ⟨[], rest, rfl, List.not_mem_nil, after⟩
    · rw [bne_iff_ne.mpr quote] at after
      obtain ⟨inside, behind, rfl, closed, after⟩ := after
      exact ⟨c :: inside, behind, rfl, by simp [Ne.symm quote, closed], after⟩
  | case3 waiting rest ih =>
    obtain ⟨inside, behind, rfl, closed, after⟩ := ih h
    simpa [ClosesBehind] using Closes.append (.of_string closed) after
  | case4 waiting c rest _ bracket opens ih =>
    obtain rfl : bracket.opener = c := by simpa using List.find?_some opens
    -- What closes the bracket ends a properly nested piece, so the demand is as it was before.
    obtain ⟨inner, behind, rfl, nested, after⟩ := ih h
    have mem := List.mem_of_find?_eq_some opens
    simpa [ClosesBehind] using Closes.append (.of_bracket mem nested) after
  | case5 waiting c rest _ bracket closes _ ih =>
    obtain rfl : bracket.closer = c := by simpa using List.find?_some closes
    rw [Bool.and_eq_true, beq_iff_eq, List.head?_eq_some_iff] at h
    obtain ⟨⟨others, rfl⟩, h⟩ := h
    -- The innermost open bracket is closed here, with nothing more in front of its partner.
    exact ⟨[], rest, rfl, .nil, ih h⟩
  | case6 waiting c rest quote noCloser noOpener ih =>
    rw [Bool.and_eq_true, decide_eq_true_eq] at h
    have plain : Plain brackets c := by
      simp only [List.find?_eq_none, beq_iff_eq] at noCloser noOpener
      exact ⟨quote, fun bracket mem => ⟨Ne.symm (noOpener bracket mem),
        Ne.symm (noCloser bracket mem)⟩⟩
    exact Closes.append (.char plain h.1 .nil) (ih h.2)

/-- **The pass finds whether a text is properly nested.** -/
theorem isNestedFrom_iff : isNestedFrom brackets stops [] false text = true ↔
    Nested brackets stops text := by
  refine ⟨closesBehind_of_isNestedFrom, fun h => ?_⟩
  have passed := @isNestedFrom_append brackets [] stops text h []
  rw [List.append_nil] at passed
  rw [passed]
  rfl

instance (brackets : List Bracket) (stops text : List Char) :
    Decidable (Nested brackets stops text) :=
  decidable_of_iff _ isNestedFrom_iff

instance (text : List Char) : Decidable (IsItem text) :=
  decidable_of_iff (text ≠ [] ∧ trim text = text ∧ Nested [.list, .group] [','] text)
    ⟨fun h => ⟨h.1, h.2.1, h.2.2⟩, fun h => ⟨h.nonempty, h.trimmed, h.nested⟩⟩

/-- Commas stand in strings and in brackets, and the brackets are closed in order. -/
example : Nested [.list, .group] [','] "f [1, (2)] \"),\"".toList ∧
    ¬ Nested [.list, .group] [','] "1, 2".toList ∧ ¬ Nested [.list, .group] [] "[(])".toList := by
  decide +kernel

end Balance

end Clausal.Token
