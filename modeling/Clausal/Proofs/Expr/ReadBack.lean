import Clausal.Expr.Text
import Clausal.Proofs.Grammar.Written

/-!
# Expressions are read back

What is read is written with parentheses around everything that has parts, and read again from this
text. Two things are in the way. Infinities and what is no number have no numeral, and a number with
a sign behind the name of an application would be subtracted from what stands before it.

Main statements:
* `WellFormed`: what the reader makes of names and strings;
* `wellFormed_of_ofText`: expressions that are read are well-formed;
* `WellFormed.writes`: the text of a well-formed expression writes it;
* `parse_text`: an expression that was read is read back from its text.
-/

namespace Clausal.Expr

open Grammar Token Text

/-! ## Parts of an expression -/

/-- `Part part expr`: the expression has this part, or it is the part itself. -/
inductive Part (part : Expr) : Expr → Prop where
  | self : Part part part
  | item {items : List Expr} {item : Expr} : item ∈ items → Part part item →
      Part part (.list items)
  | left {op : Operator} {left right : Expr} : Part part left → Part part (.binary op left right)
  | right {op : Operator} {left right : Expr} : Part part right → Part part (.binary op left right)
  | argument {name : String} {arguments : List Expr} {argument : Expr} : argument ∈ arguments →
      Part part argument → Part part (.application name arguments)
  | leftOperand {operand : Expr} {op : Operator} : Part part operand →
      Part part (.leftSection operand op)
  | rightOperand {op : Operator} {operand : Expr} : Part part operand →
      Part part (.rightSection op operand)

/-- A part of a part is a part of the whole. -/
theorem Part.trans {part middle expr : Expr} (inner : Part part middle) (outer : Part middle expr) :
    Part part expr := by
  induction outer with
  | self => exact inner
  | item mem _ ih => exact .item mem ih
  | left _ ih => exact .left ih
  | right _ ih => exact .right ih
  | argument mem _ ih => exact .argument mem ih
  | leftOperand _ ih => exact .leftOperand ih
  | rightOperand _ ih => exact .rightOperand ih

/-- Expressions whose numbers are finite and whose arguments are no numbers with a sign. -/
structure Writable (expr : Expr) : Prop where
  finite : ∀ x, Part (.number x) expr → Binary64.isFinite x = true
  unsigned : ∀ name arguments x, Part (.application name arguments) expr → .number x ∈ arguments →
    (Shortest.text x).head? ≠ some '-'

theorem Writable.part {part expr : Expr} (h : Writable expr) (outer : Part part expr) :
    Writable part where
  finite x inner := h.finite x (inner.trans outer)
  unsigned name arguments x inner := h.unsigned name arguments x (inner.trans outer)

/-! ## What is read is well-formed -/

/-- Expressions whose strings have no quotes, whose names are names, and whose applications have
arguments. -/
inductive WellFormed : Expr → Prop where
  | number (value : Float) : WellFormed (.number value)
  | string {text : String} : '"' ∉ text.toList → WellFormed (.string text)
  | bool (value : Bool) : WellFormed (.bool value)
  | list {items : List Expr} : (∀ item ∈ items, WellFormed item) → WellFormed (.list items)
  | variable {name : String} : Spells name.toList (.identifier name) → truthName? name = none →
      WellFormed (.variable name)
  | binary (op : Operator) {left right : Expr} : WellFormed left → WellFormed right →
      WellFormed (.binary op left right)
  | application {name : String} {arguments : List Expr} :
      Spells name.toList (.identifier name) → truthName? name = none → arguments ≠ [] →
      (∀ argument ∈ arguments, WellFormed argument) → WellFormed (.application name arguments)
  | bareSection (op : Operator) : WellFormed (.bareSection op)
  | leftSection {operand : Expr} (op : Operator) : WellFormed operand →
      WellFormed (.leftSection operand op)
  | rightSection (op : Operator) {operand : Expr} : WellFormed operand →
      WellFormed (.rightSection op operand)

/-- What holds of everything related to the elements of a list holds of all that the list is
related to. -/
theorem forall_of_forall₂ {α β : Type} {R : α → β → Prop} {P : β → Prop} {as : List α}
    {bs : List β} (h : List.Forall₂ R as bs) (each : ∀ a ∈ as, ∀ b, R a b → P b) :
    ∀ b ∈ bs, P b := by
  induction h with
  | nil => exact List.forall_mem_nil _
  | cons first _ ih =>
    rw [List.forall_mem_cons] at each ⊢
    exact ⟨each.1 _ first, ih each.2⟩

section Reading

variable {text inner : List Char} {token : Token} {tokens : List Token} {ops : List Operator}
  {expr : Expr} {name : String}

/-- The name that a token carries is spelled like one. -/
theorem spells_name_of_mem_scan (mem : token ∈ scan text) (hkind : token.kind = .identifier name) :
    Spells name.toList (.identifier name) := by
  obtain ⟨_, c, rest, length, -, -, -, _, starts⟩ := exists_of_mem_scan mem
  rw [hkind] at starts
  -- Of all that can start there, only an identifier makes an identifier.
  cases starts with
  | identifier _ start =>
    rw [String.toList_ofList]
    exact .identifier start fun d => List.mem_takeWhile_imp

/-- No quote is inside of a string. -/
theorem quote_not_mem_of_mem_scan {content : String} (mem : token ∈ scan text)
    (hkind : token.kind = .string content) : '"' ∉ content.toList := by
  obtain ⟨_, c, rest, length, -, -, -, _, starts⟩ := exists_of_mem_scan mem
  rw [hkind] at starts
  cases starts with
  | string =>
    rw [String.toList_ofList]
    intro quote
    simpa using List.mem_takeWhile_imp quote

/-- Tokens that derive something well-formed as operands derive it as a sequence. -/
theorem wellFormed_of_sequence {Operand : Token → Expr → Prop}
    (h : Sequence Operand ops tokens expr)
    (names : ∀ token ∈ tokens, ∀ name, token.kind = .identifier name →
      Spells name.toList (.identifier name))
    (operands : ∀ token ∈ tokens, ∀ expr, Operand token expr → WellFormed expr) :
    WellFormed expr := by
  -- Levels and operators only join what the runs derive.
  induction h with
  | run run =>
    cases run with
    | operand operand => exact operands _ List.mem_cons_self _ operand
    | application head plain arguments =>
      rw [List.forall_mem_cons] at names operands
      refine .application (names.1 _ head) plain ?_ (forall_of_forall₂ arguments operands.2)
      rintro rfl
      cases arguments
  | tighter _ ih => exact ih names operands
  | binary _ _ _ ihLeft ihRight =>
    rw [List.forall_mem_append, List.forall_mem_cons] at names operands
    exact .binary _ (ihLeft names.1 operands.1) (ihRight names.2.2 operands.2.2)

theorem weight_le_of_mem (mem : token ∈ tokens) : token.kind.weight ≤ weight tokens := by
  obtain ⟨front, back, rfl⟩ := List.append_of_mem mem
  rw [weight_append, weight_cons]
  omega

theorem length_lt_itemsLength {item : List Char} {items : List (List Char)} (mem : item ∈ items) :
    item.length < itemsLength items := by
  -- Each item counts one more than its length, for the comma.
  induction items with
  | nil => contradiction
  | cons first others ih =>
    rw [itemsLength_cons]
    rcases List.mem_cons.mp mem with rfl | mem
    · omega
    · have := ih mem
      omega

/-- What the tokens of a text derive is well-formed. -/
theorem wellFormed_of_operand (text : List Char) :
    ∀ token ∈ scan text, ∀ expr, Operand token expr → WellFormed expr := by
  intro token mem expr h
  have fits : token.kind.weight ≤ text.length :=
    Nat.le_trans (weight_le_of_mem mem) (weight_scan_le text)
  -- What the tokens inside of a bracket derive is well-formed by recursion.
  cases h with
  | number => exact .number _
  | string hkind => exact .string (quote_not_mem_of_mem_scan mem hkind)
  | bool => exact .bool _
  | «variable» hkind plain => exact .variable (spells_name_of_mem_scan mem hkind) plain
  | @list _ inner _ hkind each =>
    have bound : inner.length < text.length := by rwa [hkind] at fits
    refine .list (forall_of_forall₂ each fun item inside expr sequence => ?_)
    have shorter : item.length < text.length := by
      have := length_lt_itemsLength inside
      have := itemsLength_items_le inner
      omega
    exact wellFormed_of_sequence sequence (fun _ mem _ => spells_name_of_mem_scan mem)
      (wellFormed_of_operand item)
  | @group _ inner _ hkind group =>
    have bound : inner.length < text.length := by rwa [hkind] at fits
    have operands := wellFormed_of_operand inner
    have names : ∀ token ∈ scan inner, ∀ name, token.kind = .identifier name →
        Spells name.toList (.identifier name) := fun _ mem _ => spells_name_of_mem_scan mem
    -- The rules of groups take the tokens apart, so they must stand as a variable.
    generalize scan inner = tokens at group operands names
    cases group with
    | bare => exact .bareSection _
    | right _ sequence =>
      rw [List.forall_mem_cons] at names operands
      exact .rightSection _ (wellFormed_of_sequence sequence names.2 operands.2)
    | left sequence _ =>
      rw [List.forall_mem_append] at names operands
      exact .leftSection _ (wellFormed_of_sequence sequence names.1 operands.1)
    | parens sequence => exact wellFormed_of_sequence sequence names operands
termination_by text.length
decreasing_by
  · exact shorter
  · exact bound

/-- **What is read is well-formed.** -/
theorem wellFormed_of_ofText (h : OfText text expr) : WellFormed expr :=
  wellFormed_of_sequence h (fun _ mem _ => spells_name_of_mem_scan mem) (wellFormed_of_operand text)

end Reading

/-! ## What is well-formed is written and read back -/

theorem charsSeparated_eq (exprs : List Expr) :
    charsSeparated exprs = separated (exprs.map chars) :=
  eq_separated rfl (fun _ => rfl) (fun _ _ _ => rfl) exprs

theorem words_cons_map (first : List Char) (exprs : List Expr) :
    words (first :: exprs.map chars) = first ++ charsSpaced exprs := by
  induction exprs generalizing first with
  | nil => rw [List.map_nil, words_singleton, charsSpaced, List.append_nil]
  | cons expr exprs ih =>
    rw [List.map_cons, words_cons_cons, ih, charsSpaced]
    rfl

/-- Of all expressions, only numbers are written with a sign in front. -/
theorem WellFormed.head?_chars {expr : Expr} (h : WellFormed expr)
    (unsigned : ∀ x, expr = .number x → (Shortest.text x).head? ≠ some '-') :
    expr.chars.head? ≠ some '-' := by
  cases h with
  | number x => exact unsigned x rfl
  | bool value => cases value <;> decide
  | «variable» spelled =>
    -- A name starts with a letter or an underscore.
    obtain ⟨c, rest, heq, -, start, -⟩ := spelled.of_identifier
    rw [chars, heq]
    rintro ⟨⟩
    exact absurd start (by decide)
  | _ => simp [chars]

/-- The text of a well-formed expression writes it, if its numbers are finite and no argument is a
number with a sign. -/
theorem WellFormed.writes {expr : Expr} (h : WellFormed expr) (writable : Writable expr) :
    Writes expr.chars expr := by
  -- Each form is written in its own way, and its parts are read back by induction.
  induction h with
  | number x => exact writes_number (writable.finite x .self)
  | string free => exact writes_string free
  | bool value =>
    cases value with
    | true => exact @writes_bool "True" _ rfl
    | false => exact @writes_bool "False" _ rfl
  | «variable» spelled plain => exact writes_variable spelled plain
  | list _ ih =>
    rw [chars, charsSeparated_eq]
    refine writes_list (List.forall₂_map_left_iff.mpr (List.forall₂_same.mpr fun item mem => ?_))
    exact ih item mem (writable.part (.item mem .self))
  | binary op _ _ ihLeft ihRight =>
    have written := writes_binary (ihLeft (writable.part (.left .self))) op
      (ihRight (writable.part (.right .self)))
    rw [words_cons_cons, words_cons_cons, words_singleton] at written
    simpa [chars] using written
  | @application name arguments spelled plain applied wellFormed ih =>
    have each : List.Forall₂ Writes (arguments.map chars) arguments := by
      refine List.forall₂_map_left_iff.mpr (List.forall₂_same.mpr fun argument mem => ?_)
      exact ih argument mem (writable.part (.argument mem .self))
    -- Only a number is written with a sign, and as an argument none is.
    have unsigned : ∀ text ∈ arguments.map chars, text.head? ≠ some '-' := by
      rw [List.forall_mem_map]
      intro argument mem
      refine (wellFormed argument mem).head?_chars ?_
      rintro x rfl
      exact writable.unsigned name arguments x .self mem
    have written := writes_application spelled plain each applied unsigned
    rwa [words_cons_map] at written
  | bareSection op =>
    have written := writes_bareSection op
    rwa [words_singleton] at written
  | leftSection op _ ih =>
    have written := writes_leftSection (ih (writable.part (.leftOperand .self))) op
    rw [words_cons_cons, words_singleton] at written
    simpa [chars] using written
  | rightSection op _ ih =>
    have written := writes_rightSection op (ih (writable.part (.rightOperand .self)))
    rw [words_cons_cons, words_singleton] at written
    simpa [chars] using written

/-- **What was read is read back from its text**, as the same tree, if all its numbers are finite
and no argument of an application in it is a number with a sign. -/
theorem parse_text {text : String} {expr : Expr} (read : parse text = .ok expr)
    (finite : ∀ x, Part (.number x) expr → Binary64.isFinite x = true)
    (unsigned : ∀ name arguments x, Part (.application name arguments) expr →
      .number x ∈ arguments → (Shortest.text x).head? ≠ some '-') :
    parse expr.text = .ok expr := by
  have wellFormed := wellFormed_of_ofText (parse_eq_ok_iff.mp read)
  rw [parse_eq_ok_iff, Expr.text, String.toList_ofList]
  exact (wellFormed.writes ⟨finite, unsigned⟩).ofText

/-- The application of a name to a section with a number and to a variable. -/
def sectionApplied (x : Float) : Expr :=
  .application "f" [.rightSection .sub (.number x), .variable "x"]

theorem writable_sectionApplied {x : Float} (finite : Binary64.isFinite x = true) :
    Writable (sectionApplied x) where
  finite y part := by
    -- Of the parts, only the one in the section is a number.
    cases part with
    | argument mem part =>
      rw [List.mem_pair] at mem
      rcases mem with rfl | rfl
      · cases part with
        | rightOperand part =>
          cases part
          exact finite
      · cases part
  unsigned name arguments y part mem := by
    cases part with
    | self => simp at mem
    | argument among part =>
      rw [List.mem_pair] at among
      rcases among with rfl | rfl
      · cases part with
        | rightOperand part => cases part
      · cases part

/-- In a section, a number keeps its sign. -/
theorem parse_text_sectionApplied :
    parse "f (- -2)x" = .ok (sectionApplied (Binary64.ofFraction true 2 1)) ∧
      (sectionApplied (Binary64.ofFraction true 2 1)).text = "(f (- -2) x)" ∧
      parse "(f (- -2) x)" = .ok (sectionApplied (Binary64.ofFraction true 2 1)) := by
  have outer : scan "f (- -2)x".toList =
      [⟨.identifier "f", ['f'], 0⟩, ⟨.group "- -2".toList, "(- -2)".toList, 2⟩,
        ⟨.identifier "x", ['x'], 8⟩] := by decide +kernel
  have inner : scan "- -2".toList =
      [⟨.operator "-", ['-'], 0⟩, ⟨.number (Binary64.ofFraction true 2 1), ['-', '2'], 2⟩] := by
    decide +kernel
  have finite : Binary64.isFinite (Binary64.ofFraction true 2 1) = true := by decide +kernel
  have written : (sectionApplied (Binary64.ofFraction true 2 1)).text = "(f (- -2) x)" := by
    decide +kernel
  -- Nothing more is needed of the number, and in this way it is not computed again.
  generalize Binary64.ofFraction true 2 1 = x at inner finite written ⊢
  have negative : Group Operand (scan "- -2".toList) (.rightSection .sub (.number x)) := by
    rw [inner]
    exact .right rfl (Run.operand (.number rfl)).sequence
  have read : parse "f (- -2)x" = .ok (sectionApplied x) := by
    rw [parse_eq_ok_iff, OfText, outer]
    exact (Run.application rfl rfl
      (.cons (.group rfl negative) (.cons (.variable rfl rfl) .nil))).sequence
  have writable := writable_sectionApplied finite
  exact ⟨read, written, written ▸ parse_text read writable.finite writable.unsigned⟩

end Clausal.Expr
