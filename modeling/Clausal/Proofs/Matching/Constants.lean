import Clausal.Pattern.Match
import Clausal.Pattern.Parser
import Clausal.Proofs.Grammar.Single
import Clausal.Proofs.Value.Equality

/-!
# Constants as patterns

A token whose lexeme reads as a constant is a pattern for that constant: it matches the values
that are equal to the constant and binds nothing. The exception are lists of truth values, such
as `[True]`. The spellings of truth values are identifiers, so these lists are taken for lists of
names, and match every list of the same length.

Main statements:
* `Token.isNameList`: the lists that are taken for lists of names;
* `Pattern.ofToken_constant`: what a constant matches as a pattern.
-/

namespace Clausal

open Clausal.Expr Clausal.Token Clausal.Grammar

/-! ## Names that read as constants -/

/-- A text is a name if it is the identifier that is scanned from it. -/
theorem Pattern.isName_iff {text : List Char} : Pattern.isName text = true ↔
    ∃ token, scan text = [token] ∧ token.kind = .identifier (String.ofList text) := by
  unfold Pattern.isName
  constructor
  · intro h
    split at h
    · rename_i name hkinds
      obtain ⟨token, hscan, hkind⟩ := List.map_eq_singleton_iff.mp hkinds
      obtain rfl := beq_iff_eq.mp h
      exact ⟨token, hscan, by rw [hkind, String.ofList_toList]⟩
    · contradiction
  · rintro ⟨token, hscan, hkind⟩
    simp [hscan, hkind]

/-- A name that reads as a constant is the spelling of a truth value. -/
theorem truthName?_of_isName {text : List Char} {expr : Expr} {constant : Value}
    (name : Pattern.isName text = true) (read : OfText text expr)
    (hconstant : expr.constant? = some constant) :
    ∃ truth, truthName? (String.ofList text) = some truth ∧ constant = .bool truth := by
  obtain ⟨token, hscan, hkind⟩ := Pattern.isName_iff.mp name
  rw [ofText_iff_of_scan hscan] at read
  -- The one token of the text is an identifier, and of the identifiers only truth values are
  -- constant.
  cases read with
  | bool hidentifier truth =>
    obtain rfl := Kind.identifier.inj (hkind.symm.trans hidentifier)
    exact ⟨_, truth, (Option.some.inj hconstant).symm⟩
  | _ => simp_all [constant?]

/-- Names that read as constants are the spellings of truth values. -/
theorem truthNames?_of_isName {texts : List (List Char)} {exprs : List Expr}
    {constants : List Value} (names : texts.all Pattern.isName = true)
    (read : List.Forall₂ OfText texts exprs) (hconstants : constants? exprs = some constants) :
    ∃ truths : List Bool, (texts.map String.ofList).map truthName? = truths.map some ∧
      constants = truths.map .bool := by
  -- Item by item, since the items are read one by one
  induction read generalizing constants with
  | nil =>
    obtain rfl := Option.some.inj hconstants
    exact ⟨[], rfl, rfl⟩
  | cons read _ ih =>
    rw [List.all_cons, Bool.and_eq_true] at names
    obtain ⟨value, values, hvalue, hvalues, rfl⟩ := constants?_cons_eq_some_iff.mp hconstants
    obtain ⟨truth, htruth, rfl⟩ := truthName?_of_isName names.1 read hvalue
    obtain ⟨truths, htruths, rfl⟩ := ih names.2 hvalues
    exact ⟨truth :: truths, by simp [htruth, htruths], rfl⟩

/-! ## Lists of names -/

theorem Token.items_eq_nil_iff {inner : List Char} :
    items inner = [] ↔ (Text.trim inner).isEmpty = true := by
  unfold items
  split
  · simp [*]
  · simp [*, (itemsLength_pieces 0 false inner).1]

/-- Whether a token is a list of one item or more, each of which is a name. -/
def Token.isNameList (token : Token) : Bool :=
  match token.kind with
  | .list inner => !(items inner).isEmpty && (items inner).all Pattern.isName
  | _ => false

namespace Pattern

theorem match?_literal (constant value : Value) :
    (literal constant).match? value = if value.equals constant then some Names.empty else none := by
  rw [match?, parts?, Value.equals_comm]
  split <;> rfl

theorem match?_emptyList (value : Value) :
    emptyList.match? value = if value.equals (.list []) then some Names.empty else none := by
  cases value with
  | list items => cases items <;> rfl
  | _ => rfl

theorem match?_elements_isSome_iff {names : List String} {value : Value} :
    ((elements names).match? value).isSome = true ↔
      ∃ items, value = .list items ∧ items.length = names.length := by
  cases value with
  | list items =>
    rw [match?, parts?]
    split <;> simp_all [eq_comm]
  | _ => simp [match?, parts?]

/-- A lexeme is a literal exactly if it is read as a constant. -/
theorem literalOf_eq_ok_iff {lexeme : List Char} {pattern : Pattern} :
    literalOf lexeme = .ok pattern ↔ ∃ expr constant, Expr.ofChars lexeme = .ok expr ∧
      expr.constant? = some constant ∧ pattern = .literal constant := by
  rw [literalOf]
  cases Expr.ofChars lexeme with
  | error => simp [bind, Except.bind]
  | ok expr =>
    cases hconstant : expr.constant? <;>
      simp [bind, Except.bind, pure, Except.pure, refuse, hconstant, eq_comm]

/-- A lexeme that is no literal is refused as what is read from it is, or as no constant. -/
theorem literalOf_eq_error_iff {lexeme : List Char} {error : Error} :
    literalOf lexeme = .error error ↔ Expr.ofChars lexeme = .error error ∨
      ∃ expr, Expr.ofChars lexeme = .ok expr ∧ expr.constant? = none ∧
        error = .unparseable (String.ofList lexeme) := by
  rw [literalOf]
  cases Expr.ofChars lexeme with
  | error => simp [bind, Except.bind]
  | ok expr =>
    cases hconstant : expr.constant? <;>
      simp [bind, Except.bind, pure, Except.pure, refuse, hconstant, eq_comm]

theorem literalOf_eq_ok {lexeme : List Char} {expr : Expr} {constant : Value}
    (read : Expr.ofChars lexeme = .ok expr) (hconstant : expr.constant? = some constant) :
    literalOf lexeme = .ok (.literal constant) :=
  literalOf_eq_ok_iff.mpr ⟨expr, constant, read, hconstant, rfl⟩

/-- The three patterns that a list in brackets can be. -/
theorem ofToken_list {token : Token} {inner : List Char} (hkind : token.kind = .list inner) :
    ofToken token =
      if items inner = [] then .ok emptyList
      else if token.isNameList = true then .ok (elements ((items inner).map String.ofList))
      else literalOf token.lexeme := by
  unfold ofToken Token.isNameList
  rw [hkind]
  simp only [← Token.items_eq_nil_iff]
  split
  · rfl
  · rename_i nonempty
    simp [nonempty]

/-- What a token is taken for whose lexeme reads as a constant. -/
theorem ofToken_of_operand {token : Token} {expr : Expr} {constant : Value}
    (operand : Operand token expr) (hconstant : expr.constant? = some constant)
    (hliteral : literalOf token.lexeme = .ok (.literal constant)) :
    (token.isNameList = false ∧ constant = .list [] ∧ ofToken token = .ok emptyList) ∨
    (token.isNameList = false ∧ ofToken token = .ok (literal constant)) ∨
    (token.isNameList = true ∧ ∃ (names : List String) (truths : List Bool),
      names ≠ [] ∧ ofToken token = .ok (elements names) ∧ names.map truthName? = truths.map some ∧
      constant = .list (truths.map .bool)) := by
  cases operand with
  -- These tokens are always literals.
  | number hkind | string hkind =>
    refine .inr (.inl ⟨by rw [Token.isNameList, hkind], ?_⟩)
    rwa [ofToken, hkind]
  | @bool _ name _ hkind truth =>
    -- A truth value is neither the wildcard nor a variable, so its token is left to the literals.
    have named : name ≠ "_" := by
      rintro rfl
      simp [truthName?] at truth
    refine .inr (.inl ⟨by rw [Token.isNameList, hkind], ?_⟩)
    rw [ofToken, hkind]
    simpa [named, truth] using hliteral
  | «variable» => simp [constant?] at hconstant
  | @list _ inner _ hkind read =>
    obtain ⟨constants, hconstants, rfl⟩ := Option.map_eq_some_iff.mp hconstant
    rw [ofToken_list hkind]
    -- Without items, of names alone, or a literal
    by_cases noItems : items inner = []
    · rw [noItems, List.forall₂_nil_left_iff] at read
      subst read
      obtain rfl := Option.some.inj hconstants
      exact .inl ⟨by simp [Token.isNameList, hkind, noItems], rfl, if_pos noItems⟩
    · rw [if_neg noItems]
      by_cases hnames : token.isNameList = true
      · have names : (items inner).all isName = true := by
          rw [Token.isNameList, hkind, Bool.and_eq_true] at hnames
          exact hnames.2
        obtain ⟨truths, htruths, rfl⟩ := truthNames?_of_isName names read hconstants
        exact .inr (.inr ⟨hnames, _, truths, by simpa using noItems, if_pos hnames, htruths, rfl⟩)
      · rw [if_neg hnames]
        exact .inr (.inl ⟨by simpa using hnames, hliteral⟩)
  | @group _ inner _ hkind hgroup =>
    -- A single token is no pair of names.
    obtain ⟨single, hscan, -⟩ := hgroup.of_constant hconstant
    have notCons : consNames? inner = none := by simp [consNames?, hscan]
    refine .inr (.inl ⟨by rw [Token.isNameList, hkind], ?_⟩)
    rw [ofToken, hkind]
    simpa [notCons] using hliteral

/-- **A pattern written as a constant matches the values that are equal to the constant, unless
the constant is a list of truth values.**

Whatever token reads as a constant is a pattern. It matches exactly the values that are equal to
the constant, and binds nothing, if and only if it is no list of names. As a list of names it
matches every list of the same length. -/
theorem ofToken_constant {text : List Char} {token : Token} {expr : Expr} {constant : Value}
    (mem : token ∈ scan text) (read : Expr.ofChars token.lexeme = .ok expr)
    (hconstant : expr.constant? = some constant) :
    ∃ pattern, ofToken token = .ok pattern ∧
      ((∀ value, pattern.match? value =
          if value.equals constant then some Names.empty else none) ↔
        token.isNameList = false) ∧
      (token.isNameList = true → ∃ (names : List String) (truths : List Bool),
        names ≠ [] ∧ pattern = .elements names ∧ names.map truthName? = truths.map some ∧
        constant = .list (truths.map .bool) ∧ ∀ value, (pattern.match? value).isSome = true ↔
          ∃ items, value = .list items ∧ items.length = truths.length) := by
  have operand : Operand token expr := by
    have h := ((decides_ofChars token.lexeme).1 expr).mp read
    exact ((ofText_iff_of_scan (scan_lexeme mem)).mp h).congr_kind rfl
  -- The empty list, a literal, or a list of names
  rcases ofToken_of_operand operand hconstant (literalOf_eq_ok read hconstant) with
    ⟨noNames, rfl, hpattern⟩ | ⟨noNames, hpattern⟩ |
    ⟨hnames, names, truths, nonempty, hpattern, htruths, rfl⟩
  · refine ⟨_, hpattern, iff_of_true match?_emptyList noNames, ?_⟩
    simp [noNames]
  · refine ⟨_, hpattern, iff_of_true (match?_literal constant) noNames, ?_⟩
    simp [noNames]
  · have sameLength : names.length = truths.length := by
      simpa using congrArg List.length htruths
    refine ⟨_, hpattern, iff_of_false ?_ (by simp [hnames]), ?_⟩
    · -- The list of the names themselves is no list of truth values, but is matched.
      intro hexact
      have hmatch : ((elements names).match? (.list (names.map .string))).isSome = true :=
        match?_elements_isSome_iff.mpr ⟨_, rfl, by simp⟩
      have differs :
          (Value.list (names.map .string)).equals (.list (truths.map .bool)) = false := by
        cases names with
        | nil => contradiction
        | cons =>
          cases truths with
          | nil => contradiction
          | cons => rfl
      rw [hexact, differs] at hmatch
      contradiction
    · intro _
      refine ⟨names, truths, nonempty, rfl, htruths, rfl, fun value => ?_⟩
      rw [match?_elements_isSome_iff, sameLength]

/-- The list `["a, [b", [(True), 2], []]`, in which a string has a bracket and a comma, and a truth
value stands in parentheses. -/
def nestedList : Token where
  kind := .list "\"a, [b\", [(True), 2], []".toList
  lexeme := "[\"a, [b\", [(True), 2], []]".toList
  offset := 0

/-- The tree of `nestedList`. -/
def nestedExpr : Expr :=
  .list [.string "a, [b", .list [.bool true, .number (Decimal.read ['2'])], .list []]

/-- The value of `nestedList`. -/
def nestedValue : Value :=
  .list [.string "a, [b", .list [.bool true, .number (Decimal.read ['2'])], .list []]

theorem ofChars_nestedList : Expr.ofChars nestedList.lexeme = .ok nestedExpr := by
  have single (token : Token) {expr : Expr} (hscan : scan token.lexeme = [token])
      (operand : Operand token expr) : OfText token.lexeme expr :=
    (ofText_iff_of_scan hscan).mpr operand
  have string := single ⟨.string "a, [b", "\"a, [b\"".toList, 0⟩ (by decide +kernel)
    (.string rfl)
  have truth := single ⟨.identifier "True", "True".toList, 0⟩ (by decide +kernel) (.bool rfl rfl)
  have group := single ⟨.group "True".toList, "(True)".toList, 0⟩ (by decide +kernel)
    (.group rfl (.parens truth))
  have number := single ⟨.number (Decimal.read ['2']), ['2'], 0⟩ (by decide +kernel) (.number rfl)
  have pairItems : items "(True), 2".toList = ["(True)".toList, ['2']] := by decide +kernel
  have pair : OfText "[(True), 2]".toList (.list [.bool true, .number (Decimal.read ['2'])]) :=
    single ⟨.list "(True), 2".toList, "[(True), 2]".toList, 0⟩ (by decide +kernel)
      (.list rfl (pairItems ▸ .cons group (.cons number .nil)))
  have empty : OfText "[]".toList (.list []) :=
    single ⟨.list [], "[]".toList, 0⟩ (by decide +kernel) (.list rfl .nil)
  have listItems : items "\"a, [b\", [(True), 2], []".toList =
      ["\"a, [b\"".toList, "[(True), 2]".toList, "[]".toList] := by decide +kernel
  rw [(decides_ofChars _).1]
  exact single nestedList (by decide +kernel)
    (.list rfl (listItems ▸ .cons string (.cons pair (.cons empty .nil))))

/-- A nested list is matched by what is equal to it. -/
theorem ofToken_constant_nestedList :
    nestedList ∈ scan nestedList.lexeme ∧ Expr.ofChars nestedList.lexeme = .ok nestedExpr ∧
    nestedExpr.constant? = some nestedValue ∧
    ∃ pattern, ofToken nestedList = .ok pattern ∧
      ∀ value, pattern.match? value =
        if value.equals nestedValue then some Names.empty else none := by
  have mem : nestedList ∈ scan nestedList.lexeme := by decide +kernel
  obtain ⟨pattern, hpattern, hexact, -⟩ := ofToken_constant mem ofChars_nestedList rfl
  exact ⟨mem, ofChars_nestedList, rfl, pattern, hpattern, hexact.mpr (by decide +kernel)⟩

/-- The list `[True]` reads as a constant, but as a pattern it matches the list of one number. -/
theorem not_forall_constant_exact :
    ¬ ∀ (text : List Char) (token : Token) (expr : Expr) (constant : Value), token ∈ scan text →
      Expr.ofChars token.lexeme = .ok expr → expr.constant? = some constant →
      ∃ pattern, ofToken token = .ok pattern ∧ ∀ value, pattern.match? value =
        if value.equals constant then some Names.empty else none := by
  intro claim
  -- The claim would hold of this list, which is scanned as one token and read as a constant.
  have scanned : scan "[True]".toList = [⟨.list "True".toList, "[True]".toList, 0⟩] := by
    decide +kernel
  have name : scan "True".toList = [⟨.identifier "True", "True".toList, 0⟩] := by decide +kernel
  have read : Expr.ofChars "[True]".toList = .ok (.list [.bool true]) := by
    have element : OfText "True".toList (.bool true) :=
      (ofText_iff_of_scan name).mpr (.bool rfl rfl)
    rw [(decides_ofChars _).1, ofText_iff_of_scan scanned]
    exact .list rfl (.cons element .nil)
  obtain ⟨pattern, hpattern, hmatch⟩ :=
    claim _ _ _ _ (scanned ▸ List.mem_cons_self) read rfl
  -- As a pattern it is a list with one name, so it matches a list that is not equal to it.
  rw [ofToken_list rfl, if_neg (by decide +kernel), if_pos (by decide +kernel)] at hpattern
  obtain rfl := Except.ok.inj hpattern
  have other := hmatch (.list [.number 3])
  contradiction

end Pattern

end Clausal
