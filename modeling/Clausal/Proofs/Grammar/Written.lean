import Clausal.Proofs.Grammar.Single
import Clausal.Proofs.Number.ReadBack

/-!
# Texts that write an expression

A text writes an expression if it is the spelling of one token that stands for the expression, and
can stand as an item of a list. Out of such texts greater ones are made: lists with commas between
the items, and groups of words with spaces between them. What is written so is what is read, by the
rules of the grammar.

Main statements:
* `Spaced.scanFrom`: words with spaces between them are scanned into the tokens that they spell;
* `Writes.ofText`: a text that writes an expression is read as this expression;
* `ofText_binary`, `ofText_application`: what lines of such texts are read as;
* `writes_list`, `writes_binary`, `writes_application`, and so on: how texts are put together.
-/

namespace Clausal

open Clausal.Expr Clausal.Token Clausal.Text

namespace Token

/-! ## Spaced words -/

/-- Words with a space between them. -/
def words (texts : List (List Char)) : List Char :=
  [' '].intercalate texts

theorem words_singleton (text : List Char) : words [text] = text :=
  List.intercalate_singleton

theorem words_cons_cons (text second : List Char) (texts : List (List Char)) :
    words (text :: second :: texts) = text ++ ' ' :: words (second :: texts) := by
  rw [words, List.intercalate_cons_cons, List.append_assoc]
  rfl

/-- `Spaced afterOperand texts kinds`: the words spell tokens of these kinds, and no sign is taken
for an operator. -/
inductive Spaced : Bool → List (List Char) → List Kind → Prop where
  | nil {afterOperand : Bool} : Spaced afterOperand [] []
  | cons {afterOperand : Bool} {text : List Char} {texts : List (List Char)} {kind : Kind}
      {kinds : List Kind} : Spells text kind →
      (kind.isOperand = true → text.head? = some '-' → afterOperand = false) →
      Spaced kind.isOperand texts kinds → Spaced afterOperand (text :: texts) (kind :: kinds)

/-- **Words with spaces between them are scanned into the tokens that they spell.** -/
theorem Spaced.scanFrom {afterOperand : Bool} {texts : List (List Char)} {kinds : List Kind}
    (h : Spaced afterOperand texts kinds) (offset : Nat) :
    List.Forall₂ (fun token kind => token.kind = kind)
      (scanFrom offset afterOperand (words texts)) kinds := by
  induction h generalizing offset with
  | nil =>
    rw [words, List.intercalate_nil, Token.scanFrom]
    exact .nil
  | @cons _ text texts _ _ spelled sign rest ih =>
    cases texts with
    | nil =>
      -- The last word has nothing behind it, so no space is needed to end it.
      cases rest
      have alone := @Spells.scanFrom _ text [] _ offset spelled ended_nil sign
      rw [List.append_nil, Token.scanFrom] at alone
      rw [words_singleton, alone]
      exact .cons rfl .nil
    | cons second texts =>
      -- A space belongs to no lexeme, so the word ends where the space stands.
      have ended : Ended (' ' :: words (second :: texts)) := by
        rintro c ⟨⟩
        decide
      rw [words_cons_cons, spelled.scanFrom ended sign, scanFrom_skip (by decide)]
      exact .cons rfl (ih _)

end Token

namespace Grammar

open Binary64 (isFinite)

/-! ## What a text writes -/

/-- Whether the tokens of this kind stand for this expression. -/
def Stands (kind : Kind) (expr : Expr) : Prop :=
  ∀ token : Token, token.kind = kind → Operand token expr

/-- `Writes text expr`: the text spells one token, which stands for the expression, and it can be an
item of a list. -/
structure Writes (text : List Char) (expr : Expr) : Prop where
  spelled : ∃ kind, Spells text kind ∧ Stands kind expr
  nested : Nested [.list, .group] [','] text

section Writes

variable {text left right inner : List Char} {texts : List (List Char)} {kind : Kind}
  {kinds : List Kind} {tokens : List Token} {expr leftExpr rightExpr : Expr} {exprs : List Expr}
  {name : String} {op : Operator}

theorem Stands.isOperand (h : Stands kind expr) : kind.isOperand = true := by
  have operand := h ⟨kind, [], 0⟩ rfl
  generalize htoken : (⟨kind, [], 0⟩ : Token) = token at operand
  -- Every rule for operands asks for a kind that is no operator.
  obtain rfl : token.kind = kind := by rw [← htoken]
  cases operand <;> simp [Kind.isOperand, Kind.symbol?, *]

/-- **A text that writes an expression is read as this expression.** -/
theorem Writes.ofText (h : Writes text expr) : OfText text expr := by
  obtain ⟨kind, spelled, stands⟩ := h.spelled
  exact (ofText_iff_of_scan spelled.scan).mpr (stands _ rfl)

theorem Writes.ofChars (h : Writes text expr) : Expr.ofChars text = .ok expr :=
  ((decides_ofChars text).1 expr).mpr h.ofText

/-! ## Expressions without parts -/

theorem writes_number {x : Float} (finite : isFinite x = true) :
    Writes (Shortest.text x) (.number x) := by
  -- The text of a number is one numeral, and the value scanned from it is the number.
  have numeral := Shortest.numeral_text finite
  refine ⟨⟨_, .number numeral, ?_⟩, nested_of_numeral numeral⟩
  rw [Shortest.read_text finite]
  exact fun token hkind => .number hkind

theorem writes_string {text : String} (free : '"' ∉ text.toList) :
    Writes ('"' :: text.toList ++ ['"']) (.string text) := by
  refine ⟨⟨_, .string free, ?_⟩, .of_string free⟩
  rw [String.ofList_toList]
  exact fun token hkind => .string hkind

theorem writes_variable (spelled : Spells name.toList (.identifier name))
    (plain : truthName? name = none) : Writes name.toList (.variable name) :=
  ⟨⟨_, spelled, fun _ hkind => .variable hkind plain⟩, nested_of_identifier spelled⟩

theorem writes_bool {value : Bool} (truth : truthName? name = some value) :
    Writes name.toList (.bool value) := by
  have spelled := spells_truthName truth
  exact ⟨⟨_, spelled, fun _ hkind => .bool hkind truth⟩, nested_of_identifier spelled⟩

/-! ## Lists -/

/-- In brackets, properly nested text writes the list of what its items are read as. -/
theorem writes_items (nested : Nested [.list, .group] [] inner)
    (h : List.Forall₂ OfText (items inner) exprs) :
    Writes ('[' :: inner ++ [']']) (.list exprs) := by
  have list : Bracket.list ∈ [Bracket.list, .group] := by decide
  exact ⟨⟨.list inner, .bracket .list (nested.single .list), fun _ hkind => .list hkind h⟩,
    Nested.of_bracket list nested⟩

theorem Writes.isItem (h : Writes text expr) : IsItem text := by
  obtain ⟨kind, spelled, -⟩ := h.spelled
  exact ⟨spelled.ne_nil, spelled.trim, h.nested⟩

theorem forall_isItem (h : List.Forall₂ Writes texts exprs) : ∀ text ∈ texts, IsItem text := by
  intro text mem
  obtain ⟨expr, writes⟩ := exists_forall₂_iff.mp ⟨exprs, h⟩ text mem
  exact writes.isItem

theorem writes_list (h : List.Forall₂ Writes texts exprs) :
    Writes ('[' :: separated texts ++ [']']) (.list exprs) := by
  have each := forall_isItem h
  refine writes_items (nested_separated fun text mem => (each text mem).nested) ?_
  -- Cut at its commas, what stands between the brackets is the items again.
  rw [items_separated each]
  exact h.imp fun _ _ => Writes.ofText

/-! ## Groups -/

/-- In parentheses, properly nested text writes what its tokens derive as those of a group. -/
theorem writes_group (nested : Nested [.list, .group] [] inner)
    (h : Group Operand (scan inner) expr) : Writes ('(' :: inner ++ [')']) expr := by
  have group : Bracket.group ∈ [Bracket.list, .group] := by decide
  exact ⟨⟨.group inner, .bracket .group (nested.single .group), fun _ hkind => .group hkind h⟩,
    Nested.of_bracket group nested⟩

theorem nested_words (h : ∀ text ∈ texts, Nested [.list, .group] [','] text) :
    Nested [.list, .group] [] (words texts) := by
  have space : Nested [.list, .group] [] [' '] := .char (by decide) (by decide) .nil
  exact .intercalate space fun text mem => (h text mem).free

/-- A line of words in parentheses writes what the words derive as the tokens of a group. -/
theorem writes_words (line : Spaced false texts kinds)
    (nested : ∀ text ∈ texts, Nested [.list, .group] [','] text)
    (h : ∀ tokens, List.Forall₂ (fun token kind => token.kind = kind) tokens kinds →
      Group Operand tokens expr) :
    Writes ('(' :: words texts ++ [')']) expr :=
  writes_group (nested_words nested) (h _ (line.scanFrom 0))

/-- A line of words is read as what the words derive as a sequence. -/
theorem ofText_words (line : Spaced false texts kinds)
    (h : ∀ tokens, List.Forall₂ (fun token kind => token.kind = kind) tokens kinds →
      Sequence Operand Operator.all tokens expr) : OfText (words texts) expr :=
  h _ (line.scanFrom 0)

theorem operator?_of_kind {token : Token} (h : token.kind = .operator op.symbol) :
    token.operator? = some op := by
  rw [operator?, Token.symbol?, h]
  exact Operator.ofSymbol?_symbol op

theorem writes_bareSection (op : Operator) :
    Writes ('(' :: words [op.symbol.toList] ++ [')']) (.bareSection op) := by
  refine writes_words (.cons (spells_symbol op) (by rintro ⟨⟩) .nil)
    (List.forall_mem_singleton.mpr (nested_symbol op)) fun tokens same => ?_
  -- The tokens are known by their kinds, one for each word of the line.
  obtain _ | ⟨hop, _ | _⟩ := same
  exact .bare (operator?_of_kind hop)

theorem writes_leftSection (hleft : Writes left leftExpr) (op : Operator) :
    Writes ('(' :: words [left, op.symbol.toList] ++ [')']) (.leftSection leftExpr op) := by
  obtain ⟨kind, spelled, stands⟩ := hleft.spelled
  refine writes_words
    (.cons spelled (fun _ _ => rfl) (.cons (spells_symbol op) (by rintro ⟨⟩) .nil))
    (by simp [hleft.nested, nested_symbol]) fun tokens same => ?_
  obtain _ | ⟨operand, _ | ⟨hop, _ | _⟩⟩ := same
  exact .left (Run.operand (stands _ operand)).sequence (operator?_of_kind hop)

theorem writes_rightSection (op : Operator) (hright : Writes right rightExpr) :
    Writes ('(' :: words [op.symbol.toList, right] ++ [')']) (.rightSection op rightExpr) := by
  obtain ⟨kind, spelled, stands⟩ := hright.spelled
  refine writes_words
    (.cons (spells_symbol op) (by rintro ⟨⟩) (.cons spelled (fun _ _ => rfl) .nil))
    (by simp [hright.nested, nested_symbol]) fun tokens same => ?_
  obtain _ | ⟨hop, _ | ⟨operand, _ | _⟩⟩ := same
  exact .right (operator?_of_kind hop) (Run.operand (stands _ operand)).sequence

/-- Two operands with an operator between them are read as the operator applied to both. -/
theorem ofText_binary (hleft : Writes left leftExpr) (op : Operator)
    (hright : Writes right rightExpr) :
    OfText (words [left, op.symbol.toList, right]) (.binary op leftExpr rightExpr) := by
  obtain ⟨leftKind, spelledLeft, standsLeft⟩ := hleft.spelled
  obtain ⟨rightKind, spelledRight, standsRight⟩ := hright.spelled
  have line : Spaced false [left, op.symbol.toList, right]
      [leftKind, .operator op.symbol, rightKind] :=
    .cons spelledLeft (fun _ _ => rfl) <| .cons (spells_symbol op) (by rintro ⟨⟩) <|
      .cons spelledRight (fun _ _ => rfl) .nil
  refine ofText_words line fun tokens same => ?_
  obtain _ | ⟨first, _ | ⟨hop, _ | ⟨second, _ | _⟩⟩⟩ := same
  exact sequence_binary (standsLeft _ first) (operator?_of_kind hop) (standsRight _ second)

theorem writes_binary (hleft : Writes left leftExpr) (op : Operator)
    (hright : Writes right rightExpr) :
    Writes ('(' :: words [left, op.symbol.toList, right] ++ [')'])
      (.binary op leftExpr rightExpr) :=
  writes_group (nested_words (by simp [hleft.nested, hright.nested, nested_symbol]))
    (.parens (ofText_binary hleft op hright))

/-- Operands in a line after a name, none of them with a sign. -/
theorem exists_line (h : List.Forall₂ Writes texts exprs)
    (unsigned : ∀ text ∈ texts, text.head? ≠ some '-') :
    ∃ kinds, Spaced true texts kinds ∧ List.Forall₂ Stands kinds exprs := by
  induction h with
  | nil => exact ⟨[], .nil, .nil⟩
  | cons first _ ih =>
    rw [List.forall_mem_cons] at unsigned
    obtain ⟨kinds, line, stand⟩ := ih unsigned.2
    obtain ⟨kind, spelled, stands⟩ := first.spelled
    -- After an operand a minus would be taken for the operator, so no argument begins with one.
    refine ⟨kind :: kinds, .cons spelled (fun _ sign => absurd sign unsigned.1) ?_,
      .cons stands stand⟩
    rwa [stands.isOperand]

theorem forall₂_operand (same : List.Forall₂ (fun token kind => token.kind = kind) tokens kinds)
    (stand : List.Forall₂ Stands kinds exprs) : List.Forall₂ Operand tokens exprs := by
  induction same generalizing exprs with
  | nil =>
    cases stand
    exact .nil
  | cons hkind _ ih =>
    obtain _ | ⟨first, others⟩ := stand
    exact .cons (first _ hkind) (ih others)

/-- A name before operands, none of them with a sign, is read as the name applied to them. -/
theorem ofText_application (spelled : Spells name.toList (.identifier name))
    (plain : truthName? name = none) (h : List.Forall₂ Writes texts exprs) (applied : exprs ≠ [])
    (unsigned : ∀ text ∈ texts, text.head? ≠ some '-') :
    OfText (words (name.toList :: texts)) (.application name exprs) := by
  obtain ⟨kinds, line, stand⟩ := exists_line h unsigned
  have line : Spaced false (name.toList :: texts) (.identifier name :: kinds) :=
    .cons spelled (fun _ _ => rfl) line
  refine ofText_words line fun tokens same => ?_
  obtain _ | ⟨head, others⟩ := same
  -- An application needs one argument at least.
  have operands := forall₂_operand others stand
  cases operands with
  | nil => contradiction
  | cons first rest => exact (Run.application head plain (.cons first rest)).sequence

theorem writes_application (spelled : Spells name.toList (.identifier name))
    (plain : truthName? name = none) (h : List.Forall₂ Writes texts exprs) (applied : exprs ≠ [])
    (unsigned : ∀ text ∈ texts, text.head? ≠ some '-') :
    Writes ('(' :: words (name.toList :: texts) ++ [')']) (.application name exprs) := by
  have nested : ∀ text ∈ name.toList :: texts, Nested [.list, .group] [','] text :=
    List.forall_mem_cons.mpr ⟨nested_of_identifier spelled, fun text mem =>
      (forall_isItem h text mem).nested⟩
  exact writes_group (nested_words nested)
    (.parens (ofText_application spelled plain h applied unsigned))

end Writes

end Grammar

end Clausal
