import Clausal.Proofs.Evaluation.Layers
import Clausal.Proofs.Grammar.Written
import Clausal.Value.Text

/-!
# Data is read back

The text of a value that is made of finite numbers, truth values and lists of such values writes a
constant expression of this value. So whatever an interpreter knows, it evaluates the text to the
value it was written for.

Main statements:
* `Value.IsData`: the values whose text is data;
* `Value.IsData.exists_writes`: the text of data writes a constant;
* `Value.evaluate_text`: data is read back from its text.
-/

namespace Clausal.Value

open Clausal.Expr Clausal.Grammar Clausal.Token

/-- Values that are made of finite numbers, truth values and lists. -/
inductive IsData : Value → Prop where
  | number {x : Float} : Binary64.isFinite x = true → IsData (.number x)
  | bool (truth : Bool) : IsData (.bool truth)
  | list {items : List Value} : (∀ item ∈ items, IsData item) → IsData (.list items)

theorem charsSeparated_eq (values : List Value) :
    charsSeparated values = separated (values.map chars) :=
  eq_separated rfl (fun _ => rfl) (fun _ _ _ => rfl) values

theorem constants?_of_forall₂ {exprs : List Expr} {values : List Value}
    (h : List.Forall₂ (fun value expr => expr.constant? = some value) values exprs) :
    constants? exprs = some values := by
  induction h with
  | nil => rfl
  | cons first _ ih => exact constants?_cons_eq_some_iff.mpr ⟨_, _, first, ih, rfl⟩

/-- The text of data writes a constant of its value. -/
theorem IsData.exists_writes {value : Value} (h : IsData value) :
    ∃ expr, Writes value.chars expr ∧ expr.constant? = some value := by
  induction h with
  | number finite => exact ⟨_, writes_number finite, rfl⟩
  | bool truth =>
    cases truth with
    | true => exact ⟨.bool true, @writes_bool "true" _ rfl, rfl⟩
    | false => exact ⟨.bool false, @writes_bool "false" _ rfl, rfl⟩
  | @list items _ ih =>
    -- Each element writes a constant, and the list writes the list of these constants.
    obtain ⟨exprs, each⟩ := exists_forall₂_iff.mpr ih
    have written : List.Forall₂ Writes (items.map chars) exprs :=
      List.forall₂_map_left_iff.mpr (each.imp fun _ _ both => both.1)
    have constant := constants?_of_forall₂ (each.imp fun _ _ both => both.2)
    refine ⟨.list exprs, ?_, by rw [constant?, constant]; rfl⟩
    rw [chars, charsSeparated_eq]
    exact writes_list written

/-- **Data is read back from its text**, by every interpreter and as the same value. -/
theorem evaluate_text {value : Value} (h : IsData value) (interp : Interpreter) :
    interp.evaluate value.text = .ok value := by
  obtain ⟨expr, writes, constant⟩ := h.exists_writes
  have parsed : Expr.parse value.text = .ok expr := by
    rw [Expr.parse, text, String.toList_ofList]
    exact writes.ofChars
  rw [Interpreter.evaluate, parsed]
  exact evalIn_of_constant? constant

/-- A list with a fraction, the negative zero and an empty list in it. -/
def nested : Value :=
  .list [.number (Binary64.ofFraction true 3 2), .list [],
    .list [.bool false, .number (Binary64.ofCode true 0)]]

/-- The negative zero is read back with its sign. -/
theorem evaluate_text_nested :
    nested.text = "[-1.5, [], [false, -0]]" ∧
      ∀ interp : Interpreter, interp.evaluate "[-1.5, [], [false, -0]]" = .ok nested := by
  have data : IsData nested := by
    refine .list ?_
    simp only [List.forall_mem_cons]
    refine ⟨.number (by decide +kernel), .list (List.forall_mem_nil _), .list ?_,
      List.forall_mem_nil _⟩
    simp only [List.forall_mem_cons]
    exact ⟨.bool false, .number (by decide +kernel), List.forall_mem_nil _⟩
  have written : nested.text = "[-1.5, [], [false, -0]]" := by decide +kernel
  exact ⟨written, fun interp => written ▸ evaluate_text data interp⟩

end Clausal.Value
