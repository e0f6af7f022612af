import Clausal.Proofs.Grammar.Written
import Clausal.Proofs.Token.Balance

/-!
# Expressions in brackets

In brackets, a balanced text is read as it is read alone. A text in parentheses is one operand,
whatever operators it has, and is never a section if it is read alone. A list between square
brackets is read item by item, with any blanks around the items.

Main statements:
* `parse_parenthesized`: parenthesized texts as expressions, under operators and as arguments;
* `parse_listed`: the items of a list, and what the list is read as.
-/

namespace Clausal.Expr

open Grammar Token Text

/-! ## Parentheses -/

/-- A text whose brackets are properly nested and whose strings are closed. -/
def Balanced (text : String) : Prop :=
  Nested [.list, .group] [] text.toList

instance (text : String) : Decidable (Balanced text) :=
  inferInstanceAs (Decidable (Nested [.list, .group] [] text.toList))

/-- A text in parentheses. -/
def parenthesized (text : String) : String :=
  "(" ++ text ++ ")"

/-- `Reads text expr`: the text is balanced and is read as the expression. -/
structure Reads (text : String) (expr : Expr) : Prop where
  balanced : Balanced text
  parsed : parse text = .ok expr

theorem Reads.writes {text : String} {expr : Expr} (h : Reads text expr) :
    Writes (parenthesized text).toList expr := by
  -- What is read alone neither starts nor ends with an operator, so it makes no section.
  have group : Group Operand (scan text.toList) expr := .parens (parse_eq_ok_iff.mp h.parsed)
  simpa [parenthesized] using writes_group h.balanced group

theorem forall₂_writes_parenthesized {texts : List String} {exprs : List Expr}
    (h : List.Forall₂ Reads texts exprs) :
    List.Forall₂ Writes (texts.map fun text => (parenthesized text).toList) exprs :=
  List.forall₂_map_left_iff.mpr (h.imp fun _ _ => Reads.writes)

/-- **Parentheses make the structure explicit.** Of balanced texts that are read, a text in
parentheses is read as it is alone, two of them with an operator in between as the operator applied
to both, and one or more after a name as the name applied to them. -/
theorem parse_parenthesized :
    (∀ text expr, Reads text expr → parse (parenthesized text) = .ok expr) ∧
    (∀ op left right leftExpr rightExpr, Reads left leftExpr → Reads right rightExpr →
      parse (parenthesized left ++ " " ++ op.symbol ++ " " ++ parenthesized right) =
        .ok (.binary op leftExpr rightExpr)) ∧
    (∀ name texts exprs, Spells name.toList (.identifier name) → truthName? name = none →
      texts ≠ [] → List.Forall₂ Reads texts exprs →
        parse (" ".intercalate (name :: texts.map parenthesized)) =
          .ok (.application name exprs)) := by
  refine ⟨fun text expr h => ?_, fun op left right leftExpr rightExpr hleft hright => ?_,
    fun name texts exprs spelled plain nonempty h => ?_⟩
  · exact h.writes.ofChars
  · rw [parse_eq_ok_iff]
    simpa [words] using ofText_binary hleft.writes op hright.writes
  · rw [parse_eq_ok_iff]
    have applied : exprs ≠ [] := by
      rintro rfl
      exact nonempty (List.forall₂_nil_right_iff.mp h)
    -- An argument starts with its parenthesis, so no sign in it is taken for the operator.
    have unsigned : ∀ text ∈ texts.map fun text => (parenthesized text).toList,
        text.head? ≠ some '-' := by
      simp [parenthesized]
    simpa [words, String.toList_intercalate, Function.comp_def] using
      ofText_application spelled plain (forall₂_writes_parenthesized h) applied unsigned

/-- Sums are compared, and are the arguments of a name, if they stand in parentheses. -/
theorem parse_parenthesized_sum :
    parse "(x + y) < (y)" = .ok (.binary .lt (.binary .add (.variable "x") (.variable "y"))
        (.variable "y")) ∧
      parse "f (x + y) (y)" = .ok (.application "f" [.binary .add (.variable "x") (.variable "y"),
        .variable "y"]) ∧
      parse "((x + y))" = .ok (.binary .add (.variable "x") (.variable "y")) := by
  have spelled : Spells "f".toList (.identifier "f") :=
    .identifier (by decide) (List.forall_mem_nil _)
  have x : Writes "x".toList (.variable "x") :=
    writes_variable (.identifier (by decide) (List.forall_mem_nil _)) (by decide)
  have y : Writes "y".toList (.variable "y") :=
    writes_variable (.identifier (by decide) (List.forall_mem_nil _)) (by decide)
  have readsY : Reads "y" (.variable "y") := ⟨by decide +kernel, y.ofChars⟩
  have sum : Reads "x + y" (.binary .add (.variable "x") (.variable "y")) :=
    ⟨by decide +kernel, parse_eq_ok_iff.mpr (ofText_binary x .add y)⟩
  obtain ⟨alone, binary, application⟩ := parse_parenthesized
  have operands : List.Forall₂ Reads ["x + y", "y"] _ := .cons sum (.cons readsY .nil)
  exact ⟨binary .lt "x + y" "y" _ _ sum readsY,
    application "f" ["x + y", "y"] _ spelled (by decide) (by decide) operands,
    alone "(x + y)" _ ⟨by decide +kernel, alone "x + y" _ sum⟩⟩

/-! ## Lists -/

/-- In square brackets, properly nested text is read as the list of what its items are read as. -/
theorem ofChars_list {inner : List Char} (nested : Nested [.list, .group] [] inner) :
    ofChars ('[' :: inner ++ [']']) = do return .list (← ofItems (items inner)) := by
  -- The whole text is one token, whatever the items are.
  have scanned := (Spells.bracket .list (nested.single .list)).scan
  simp only [Bracket.opener, Bracket.closer, Bracket.kind] at scanned
  rw [ofChars_of_scan scanned, ofToken]

/-- The first item that is not read decides the error. -/
theorem ofItems_of_error {front back : List (List Char)} {item : List Char} {error : Error}
    (before : ∀ earlier ∈ front, Accepted (ofChars earlier)) (h : ofChars item = .error error) :
    ofItems (front ++ item :: back) = .error error := by
  -- The items are read from the left, and those in front are all read.
  induction front with
  | nil =>
    rw [List.nil_append, ofItems, h]
    rfl
  | cons earlier front ih =>
    rw [List.forall_mem_cons] at before
    obtain ⟨expr, hexpr⟩ := before.1
    rw [List.cons_append, ofItems, hexpr, ih before.2]
    rfl

/-- **A list is read item by item.** Joined by commas with any blanks around them, items are cut
apart again. A list of them is read as the list of what they are read as, or fails like the first
of them that is not read. -/
theorem parse_listed {texts : List String} (each : ∀ text ∈ texts, IsItem text.toList) :
    (∀ pieces : List String,
      List.Forall₂ (fun piece text => Padded piece.toList text.toList) pieces texts →
        items (",".intercalate pieces).toList = texts.map String.toList) ∧
    (∀ exprs, List.Forall₂ (fun text expr => parse text = .ok expr) texts exprs →
      parse ("[" ++ ", ".intercalate texts ++ "]") = .ok (.list exprs)) ∧
    (∀ front text back error, texts = front ++ text :: back →
      (∀ earlier ∈ front, Accepted (parse earlier)) → parse text = .error error →
        parse ("[" ++ ", ".intercalate texts ++ "]") = .error error) := by
  -- The statement is about strings, and the lemmas are about their characters.
  have each : ∀ text ∈ texts.map String.toList, IsItem text := List.forall_mem_map.mpr each
  have nested := nested_separated fun text mem => (each text mem).nested
  have spelled : ("[" ++ ", ".intercalate texts ++ "]").toList =
      '[' :: separated (texts.map String.toList) ++ [']'] := by
    simp [separated, String.toList_intercalate]
  refine ⟨fun pieces padded => ?_, fun exprs h => ?_,
    fun front text back error htexts before h => ?_⟩
  · rw [String.toList_intercalate]
    exact items_padded (List.forall₂_map_left_iff.mpr (List.forall₂_map_right_iff.mpr padded)) each
  · -- Where all items are read, the grammar derives the list.
    rw [parse, spelled]
    refine (writes_items nested ?_).ofChars
    rw [items_separated each, List.forall₂_map_left_iff]
    exact h.imp fun _ _ => parse_eq_ok_iff.mp
  · rw [parse, spelled, ofChars_list nested, items_separated each, htexts, List.map_append,
      List.map_cons, ofItems_of_error (List.forall_mem_map.mpr before) h]
    rfl

/-- Commas in brackets and in strings do not part items, and an operator is no item. -/
theorem parse_listed_nested :
    items " x ,[y, x] ,\"a, b\"".toList = ["x".toList, "[y, x]".toList, "\"a, b\"".toList] ∧
      parse "[x, [y, x], \"a, b\"]" =
        .ok (.list [.variable "x", .list [.variable "y", .variable "x"], .string "a, b"]) ∧
      parse "[x, +, [y, x]]" = .error (.unparseable "+") := by
  have x : Writes "x".toList (.variable "x") :=
    writes_variable (.identifier (by decide) (List.forall_mem_nil _)) (by decide)
  have y : Writes "y".toList (.variable "y") :=
    writes_variable (.identifier (by decide) (List.forall_mem_nil _)) (by decide)
  have yx : Writes "[y, x]".toList (.list [.variable "y", .variable "x"]) :=
    writes_list (.cons y (.cons x .nil))
  have ab : Writes "\"a, b\"".toList (.string "a, b") := @writes_string "a, b" (by decide)
  have operator : parse "+" = .error (.unparseable "+") := by
    have scanned : scan "+".toList = [⟨.operator "+", "+".toList, 0⟩] := (spells_symbol .add).scan
    rw [parse, ofChars, scanned, if_neg (by simp), ofTokens, ofToken]
  -- The first two parts hold of the one list, and the third of the other.
  obtain ⟨cut, read, -⟩ := @parse_listed ["x", "[y, x]", "\"a, b\""] (by decide +kernel)
  obtain ⟨-, -, fail⟩ := @parse_listed ["x", "+", "[y, x]"] (by decide +kernel)
  refine ⟨cut [" x ", "[y, x] ", "\"a, b\""] ?_, read _ ?_,
    fail ["x"] "+" ["[y, x]"] _ rfl ?_ operator⟩
  · exact .cons ⟨[' '], [' '], rfl, List.all_eq_true.mp (by decide)⟩
      (.cons ⟨[], [' '], rfl, List.all_eq_true.mp (by decide)⟩ (.cons (.refl _) .nil))
  · exact .cons x.ofChars (.cons yx.ofChars (.cons ab.ofChars .nil))
  · exact List.forall_mem_singleton.mpr ⟨_, x.ofChars⟩

end Clausal.Expr
