import Clausal.Proofs.Evaluation.Layers
import Clausal.Proofs.Grammar.Single
import Clausal.Proofs.Matching.Bindings
import Clausal.Proofs.Matching.Constants

/-!
# Patterns read as expressions

A token that is a pattern is an expression, too. Where the pattern takes a value apart, the
expression puts it together again: evaluated under the bindings of a match, it yields the value that
was matched. A constant yields itself. The wildcard keeps nothing of the value.

Main statements:
* `Pattern.ReadAs`: the expression that is written like a pattern;
* `Pattern.exists_readAs`: the token of a pattern is read as that expression;
* `Pattern.ReadAs.eval`: what it evaluates to under the bindings of a match;
* `Pattern.match_then_eval`: matching and evaluating are inverse to each other.
-/

namespace Clausal

open Clausal.Expr Clausal.Token Clausal.Grammar

/-! ## Evaluating what a match has bound -/

theorem Interpreter.eval_variable_of_get? {interp : Interpreter} {bindings : Bindings}
    {name : String} {value : Value} (h : bindings.get? name = some value) :
    interp.eval (.variable name) bindings = .ok value := by
  rw [eval, evalIn, Scope.lookup, scope]
  simp only [h, Option.some_or]

/-- The names of a list pattern evaluate to the elements that they are bound to. -/
theorem Expr.evalAllIn_variables {scope : Scope} {apply : Application} {names : List String}
    {values : List Value} (sameLength : names.length = values.length)
    (h : ∀ part ∈ names.zip values, (Expr.variable part.1).evalIn scope apply = .ok part.2) :
    evalAllIn scope apply (names.map Expr.variable) = .ok values := by
  induction names generalizing values with
  | nil =>
    obtain rfl := List.length_eq_zero_iff.mp sameLength.symm
    rfl
  | cons name names ih =>
    cases values with
    | nil => contradiction
    | cons value values =>
      rw [List.zip_cons_cons, List.forall_mem_cons] at h
      rw [List.map_cons, evalAllIn, h.1, ih (Nat.succ.inj sameLength) h.2]
      rfl

namespace Pattern

/-! ## The expression that is written like a pattern -/

/-- `ReadAs pattern expr`: the expression is written like the pattern. -/
inductive ReadAs : Pattern → Expr → Prop where
  /-- The wildcard is read as a variable, which no match binds. -/
  | wildcard : ReadAs .wildcard (.variable "_")
  | emptyList : ReadAs .emptyList (.list [])
  | cons (head tail : String) :
      ReadAs (.cons head tail) (.binary .cons (.variable head) (.variable tail))
  | elements (names : List String) : ReadAs (.elements names) (.list (names.map .variable))
  | variable (name : String) : ReadAs (.variable name) (.variable name)
  | literal {constant : Value} {expr : Expr} :
      expr.constant? = some constant → ReadAs (.literal constant) expr

theorem exists_readAs_of_literalOf {lexeme : List Char} {pattern : Pattern}
    (h : literalOf lexeme = .ok pattern) :
    ∃ expr, Expr.ofChars lexeme = .ok expr ∧ pattern.ReadAs expr := by
  obtain ⟨expr, constant, read, hconstant, rfl⟩ := literalOf_eq_ok_iff.mp h
  exact ⟨expr, read, .literal hconstant⟩

/-- Names that are no spellings of truth values are read as variables. -/
theorem forall₂_variables {texts : List (List Char)} (names : texts.all isName = true)
    (plain : ∀ name ∈ texts.map String.ofList, truthName? name = none) :
    List.Forall₂ OfText texts ((texts.map String.ofList).map .variable) := by
  -- Both lists are made of the same texts, so each text is compared with itself.
  rw [List.map_map, List.forall₂_map_right_iff, List.forall₂_same]
  intro text mem
  obtain ⟨token, hscan, hkind⟩ := isName_iff.mp (List.all_eq_true.mp names text mem)
  rw [ofText_iff_of_scan hscan]
  exact .variable hkind (plain _ (List.mem_map_of_mem mem))

/-- The two names around the colon are read as variables that it joins. -/
theorem operand_of_consNames? {token : Token} {inner : List Char} {head tail : String}
    (hkind : token.kind = .group inner) (hcons : consNames? inner = some (head, tail))
    (hhead : truthName? head = none) (htail : truthName? tail = none) :
    Operand token (.binary .cons (.variable head) (.variable tail)) := by
  revert hcons
  fun_cases consNames? inner with
  | case1 front back hkinds =>
    rintro ⟨⟩
    obtain ⟨first, others, hscan, hfirst, hothers⟩ := List.map_eq_cons_iff.mp hkinds
    obtain ⟨between, others, rfl, hbetween, hothers⟩ := List.map_eq_cons_iff.mp hothers
    obtain ⟨last, rfl, hlast⟩ := List.map_eq_singleton_iff.mp hothers
    -- The colon of a pattern is the operator that puts a list together.
    have spells : between.operator? = some .cons := by
      rw [operator?, symbol?, hbetween]
      exact Operator.ofSymbol?_symbol .cons
    refine .group hkind (.parens ?_)
    rw [hscan]
    exact sequence_binary (.variable hfirst hhead) spells (.variable hlast htail)
  | _ => rintro ⟨⟩

/-- **The token of a pattern is read as the expression that is written like the pattern.** -/
theorem exists_readAs {text : List Char} {token : Token} {pattern : Pattern}
    (mem : token ∈ scan text) (h : ofToken token = .ok pattern)
    (plain : ∀ name ∈ pattern.names, truthName? name = none) :
    ∃ expr, Expr.ofChars token.lexeme = .ok expr ∧ pattern.ReadAs expr := by
  revert h
  -- In the cases of the pattern parser. What falls through to a literal is read as its constant.
  fun_cases ofToken token with
  | case1 inner hkind blank =>
    rintro ⟨⟩
    have noItems := Token.items_eq_nil_iff.mpr blank
    exact ⟨_, (ofChars_lexeme_iff mem).mpr (.list hkind (noItems ▸ .nil)), .emptyList⟩
  | case2 inner hkind _ names =>
    rintro ⟨⟩
    have derived := forall₂_variables names plain
    exact ⟨_, (ofChars_lexeme_iff mem).mpr (.list hkind derived), .elements _⟩
  | case4 inner hkind head tail hcons =>
    rintro ⟨⟩
    have operand := operand_of_consNames? hkind hcons (plain head (by simp [names]))
      (plain tail (by simp [names]))
    exact ⟨_, (ofChars_lexeme_iff mem).mpr operand, .cons head tail⟩
  | case6 hkind =>
    -- The expression parser has no wildcard, and takes it for a variable.
    rintro ⟨⟩
    exact ⟨_, (ofChars_lexeme_iff mem).mpr (.variable hkind (by decide)), .wildcard⟩
  | case7 name hkind _ spelling =>
    rintro ⟨⟩
    exact ⟨_, (ofChars_lexeme_iff mem).mpr (.variable hkind (by simpa using spelling)),
      .variable name⟩
  | _ => exact exists_readAs_of_literalOf

/-! ## Putting together what was taken apart -/

/-- What a pattern yields when it is evaluated under the bindings of a match. -/
def rebuilt : Pattern → Value → Value
  | .literal constant, _ => constant
  | _, value => value

/-- **Evaluated under the bindings of a match, a pattern other than the wildcard yields the value
that was matched, or the constant that it is.** -/
theorem ReadAs.eval {pattern : Pattern} {expr : Expr} (h : pattern.ReadAs expr)
    (bare : pattern ≠ .wildcard) (distinct : pattern.names.Nodup) (named : "_" ∉ pattern.names)
    (interp : Interpreter) {value : Value} {bindings : Bindings}
    (hmatch : pattern.match? value = some bindings) :
    interp.eval expr bindings = .ok (pattern.rebuilt value) := by
  -- Distinct names lose no part to a later one, which is all that the bindings could hide.
  obtain ⟨parts, hparts, rfl⟩ := Option.map_eq_some_iff.mp hmatch
  -- Each name of the pattern has the value of its part.
  have bound (name : String) (part : Value) (mem : (name, part) ∈ parts) :
      interp.eval (.variable name) (Bindings.ofParts parts) = .ok part := by
    rw [← fst_parts? hparts] at distinct named
    refine Interpreter.eval_variable_of_get? (Bindings.get?_ofParts_of_mem distinct ?_ mem)
    rintro rfl
    exact named (List.mem_map_of_mem mem)
  cases h with
  | wildcard => contradiction
  | emptyList =>
    -- Of all values only the empty list matches.
    cases value with
    | list items =>
      cases items with
      | nil => rfl
      | cons => contradiction
    | _ => contradiction
  | cons head tail =>
    -- Only a list with an element matches, and the operator joins the two parts again.
    cases value with
    | list items =>
      cases items with
      | nil => contradiction
      | cons item items =>
        obtain rfl := Option.some.inj hparts
        have first := bound head item (by simp)
        have rest := bound tail (.list items) (by simp)
        rw [Interpreter.eval] at first rest ⊢
        rw [evalIn, first, rest]
        rfl
    | _ => contradiction
  | elements names =>
    cases value with
    | list items =>
      rw [parts?] at hparts
      split at hparts
      · rename_i sameLength
        obtain rfl := Option.some.inj hparts
        rw [Interpreter.eval, evalIn,
          evalAllIn_variables sameLength fun part mem => bound part.1 part.2 mem]
        rfl
      · contradiction
    | _ => contradiction
  | «variable» name =>
    obtain rfl := Option.some.inj hparts
    exact bound name value List.mem_cons_self
  -- A constant evaluates to itself in every scope.
  | literal hconstant => exact evalIn_of_constant? hconstant

/-- **Matching takes a value apart, and evaluating the pattern puts it together again.**

Whatever token is a pattern with different names, none of which is `_` or the spelling of a truth
value, is an expression. Under the bindings of a match, every interpreter evaluates it to the value
that was matched, and a constant to the constant, which is equal to the value. Only the wildcard is
lost: it is read as a variable that the match does not bind. -/
theorem match_then_eval {text : List Char} {token : Token} {pattern : Pattern}
    (mem : token ∈ scan text) (h : ofToken token = .ok pattern) (distinct : pattern.names.Nodup)
    (plain : ∀ name ∈ pattern.names, name ≠ "_" ∧ truthName? name = none) :
    ∃ expr, Expr.ofChars token.lexeme = .ok expr ∧
      ∀ (interp : Interpreter) (value : Value) (bindings : Bindings),
        pattern.match? value = some bindings →
        (pattern ≠ .wildcard → (∀ constant, pattern ≠ .literal constant) →
          interp.eval expr bindings = .ok value) ∧
        ∀ constant, pattern = .literal constant →
          interp.eval expr bindings = .ok constant ∧ value.equals constant = true := by
  obtain ⟨expr, read, readAs⟩ := exists_readAs mem h fun name mem => (plain name mem).2
  have named : "_" ∉ pattern.names := fun blank => (plain "_" blank).1 rfl
  refine ⟨expr, read, fun interp value bindings hmatch => ⟨fun bare noConstant => ?_, ?_⟩⟩
  · have evaluated := readAs.eval bare distinct named interp hmatch
    cases pattern with
    | literal constant => exact absurd rfl (noConstant constant)
    | _ => exact evaluated
  · rintro constant rfl
    have evaluated := readAs.eval nofun distinct named interp hmatch
    -- A literal matches what is equal to its constant.
    rw [match?_literal, Option.ite_none_right_eq_some] at hmatch
    exact ⟨evaluated, hmatch.1⟩

/-- The list `[a, b']` as the parameter of a clause. -/
def pairToken : Token where
  kind := .list "a, b'".toList
  lexeme := "[a, b']".toList
  offset := 5

/-- A list of two elements is taken apart and put together again. -/
theorem match_then_eval_pairToken :
    pairToken ∈ scan "swap [a, b'] n".toList ∧ ofToken pairToken = .ok (.elements ["a", "b'"]) ∧
    ∃ expr, Expr.ofChars pairToken.lexeme = .ok expr ∧
      ∀ (interp : Interpreter) (first second : Value), ∃ bindings,
        (elements ["a", "b'"]).match? (.list [first, second]) = some bindings ∧
        interp.eval expr bindings = .ok (.list [first, second]) := by
  have mem : pairToken ∈ scan "swap [a, b'] n".toList := by decide +kernel
  have inner : items "a, b'".toList = [['a'], ['b', '\'']] := by decide +kernel
  have pattern : ofToken pairToken = .ok (.elements ["a", "b'"]) := by
    rw [ofToken_list rfl, if_neg (by decide +kernel), if_pos (by decide +kernel), inner]
    rfl
  obtain ⟨expr, read, rebuilds⟩ := match_then_eval mem pattern (by decide) (by decide)
  exact ⟨mem, pattern, expr, read, fun interp first second =>
    ⟨_, rfl, (rebuilds interp (.list [first, second]) _ rfl).1 nofun nofun⟩⟩

end Pattern

end Clausal
