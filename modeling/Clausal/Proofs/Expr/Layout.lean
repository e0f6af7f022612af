import Clausal.Proofs.Grammar.Single
import Clausal.Proofs.Token.Layout

/-!
# Layout in expressions

Texts that differ in nothing but their layout are read alike: neither whether a text is an
expression nor which one it is depends on which layout it has where it has some, in however many
brackets it stands.

Main statements:
* `Sequence.replace`: tokens that stand for others in a sequence;
* `ofChars_respaced`: texts that differ in nothing but their layout;
* `Expr.parse_respace`: a text and the same text with single spaces for its layout.
-/

namespace Clausal

open Clausal.Expr Clausal.Token Clausal.Text

namespace Grammar

/-! ## Tokens that stand for others -/

/-- `StandsFor Operand other token`: what is derived with the token is derived with the other in its
place. -/
structure StandsFor (Operand : Token → Expr → Prop) (other token : Token) : Prop where
  operator : other.operator? = token.operator?
  name : ∀ name, token.kind = .identifier name → other.kind = .identifier name
  operand : ∀ expr, Operand token expr → Operand other expr

section Replace

variable {Operand : Token → Expr → Prop} {ops : List Operator} {tokens others : List Token}
  {expr : Expr}

/-- What is related to a list with an element between two parts is made of such parts. -/
theorem exists_of_forall₂_append_cons {R : Token → Token → Prop} {left right : List Token}
    {token : Token} (h : List.Forall₂ R others (left ++ token :: right)) :
    ∃ before other after, others = before ++ other :: after ∧ List.Forall₂ R before left ∧
      R other token ∧ List.Forall₂ R after right := by
  have front := List.forall₂_take_append others left (token :: right) h
  have back := List.forall₂_drop_append others left (token :: right) h
  obtain ⟨other, after, first, rest, hother⟩ := List.forall₂_cons_right_iff.mp back
  refine ⟨others.take left.length, other, after, ?_, front, first, rest⟩
  rw [← hother, List.take_append_drop]

theorem forall₂_replace {exprs : List Expr} (same : List.Forall₂ (StandsFor Operand) others tokens)
    (h : List.Forall₂ Operand tokens exprs) : List.Forall₂ Operand others exprs := by
  induction same generalizing exprs with
  | nil => exact h
  | cons first _ ih =>
    cases h with
    | cons operand operands => exact .cons (first.operand _ operand) (ih operands)

theorem Run.replace (same : List.Forall₂ (StandsFor Operand) others tokens)
    (h : Run Operand tokens expr) : Run Operand others expr := by
  cases h with
  | operand h =>
    obtain ⟨other, _, first, nothing, rfl⟩ := List.forall₂_cons_right_iff.mp same
    obtain rfl := List.forall₂_nil_right_iff.mp nothing
    exact .operand (first.operand _ h)
  | application head plain operands =>
    obtain ⟨name, _, hname, behind, rfl⟩ := List.forall₂_cons_right_iff.mp same
    have operands := forall₂_replace behind operands
    obtain ⟨first, rest, -, -, rfl⟩ := List.forall₂_cons_right_iff.mp behind
    exact .application (hname.name _ head) plain operands

/-- **A sequence derives the same with tokens that stand for its own.** -/
theorem Sequence.replace (same : List.Forall₂ (StandsFor Operand) others tokens)
    (h : Sequence Operand ops tokens expr) : Sequence Operand ops others expr := by
  induction h generalizing others with
  | run h => exact .run (h.replace same)
  | tighter _ ih => exact .tighter (ih same)
  | binary _ between _ ihLeft ihRight =>
    obtain ⟨before, other, after, rfl, left, middle, right⟩ := exists_of_forall₂_append_cons same
    exact .binary (ihLeft left) (middle.operator.trans between) (ihRight right)

theorem Group.replace (same : List.Forall₂ (StandsFor Operand) others tokens)
    (h : Group Operand tokens expr) : Group Operand others expr := by
  cases h with
  | bare hop =>
    obtain ⟨other, _, first, nothing, rfl⟩ := List.forall₂_cons_right_iff.mp same
    obtain rfl := List.forall₂_nil_right_iff.mp nothing
    exact .bare (first.operator.trans hop)
  | right hop operand =>
    obtain ⟨other, rest, first, behind, rfl⟩ := List.forall₂_cons_right_iff.mp same
    exact .right (first.operator.trans hop) (operand.replace behind)
  | left operand hop =>
    obtain ⟨before, other, _, rfl, front, last, nothing⟩ := exists_of_forall₂_append_cons same
    obtain rfl := List.forall₂_nil_right_iff.mp nothing
    exact .left (operand.replace front) (last.operator.trans hop)
  | parens h => exact .parens (h.replace same)

end Replace

/-! ## Texts that differ in nothing but their layout -/

mutual

/-- What a token derives does not depend on the layout in its brackets. -/
theorem standsFor_of_alike (token other : Token) (alike : token.Alike other) :
    StandsFor Operand other token := by
  rw [Token.Alike] at alike
  have symbol : other.symbol? = token.symbol? := alike.symbol?_eq
  refine ⟨by rw [operator?, operator?, symbol], fun name hname => ?_, fun expr h => ?_⟩
  · rw [hname] at alike
    generalize other.kind = kind at alike
    cases alike
    rfl
  · -- What stands in brackets weighs less than the token, and is replaced in turn.
    generalize hkind : token.kind = kind, hother : other.kind = otherKind at alike
    cases alike with
    | refl => exact h.congr_kind (hkind.trans hother.symm)
    | @list inner otherInner same =>
      have size := itemsLength_items_le inner
      cases h with
      | list hlist h =>
        obtain rfl := Kind.list.inj (hkind.symm.trans hlist)
        exact .list hother (forall₂_ofText_respaced _ _ same.items _ h)
      | _ => simp_all
    | @group inner otherInner same =>
      have size := weight_scan_le inner
      cases h with
      | group hgroup h =>
        obtain rfl := Kind.group.inj (hkind.symm.trans hgroup)
        have tokens := forall₂_standsFor _ _ same.scan
        exact .group hother (h.replace tokens)
      | _ => simp_all
termination_by 4 * token.kind.weight + 1
decreasing_by
  all_goals simp only [hkind, Kind.weight] at *; omega

theorem forall₂_standsFor (tokens others : List Token)
    (alike : List.Forall₂ Token.Alike tokens others) :
    List.Forall₂ (StandsFor Operand) others tokens := by
  match tokens, others, alike with
  | [], [], _ => exact .nil
  | token :: tokens, other :: others, .cons first alike =>
    exact .cons (standsFor_of_alike token other first) (forall₂_standsFor tokens others alike)
termination_by 4 * weight tokens + 2
decreasing_by
  · simp only [weight_cons]; omega
  · have := token.kind.weight_pos; simp only [weight_cons]; omega

theorem ofText_of_respaced (text other : List Char) (same : Respaced text other) {expr : Expr}
    (h : OfText text expr) : OfText other expr :=
  h.replace (forall₂_standsFor _ _ same.scan)
termination_by 4 * text.length + 3
decreasing_by have := weight_scan_le text; omega

theorem forall₂_ofText_respaced (texts others : List (List Char))
    (same : List.Forall₂ Respaced texts others) (exprs : List Expr)
    (h : List.Forall₂ OfText texts exprs) : List.Forall₂ OfText others exprs := by
  match texts, others, exprs, same, h with
  | [], [], [], _, _ => exact .nil
  | text :: texts, other :: others, expr :: exprs, .cons first same, .cons operand operands =>
    exact .cons (ofText_of_respaced text other first operand)
      (forall₂_ofText_respaced texts others same exprs operands)
termination_by 4 * itemsLength texts
decreasing_by
  · simp only [itemsLength_cons]; omega
  · simp only [itemsLength_cons]; omega

end

/-- **Texts that differ in nothing but their layout are read alike.** -/
theorem ofChars_respaced {text other : List Char} (same : Respaced text other) (expr : Expr) :
    ofChars text = .ok expr ↔ ofChars other = .ok expr := by
  rw [(decides_ofChars text).1, (decides_ofChars other).1]
  exact ⟨ofText_of_respaced text other same, ofText_of_respaced other text same.symm⟩

end Grammar

namespace Expr

/-- **Layout does not change what a text means.** With a single space for each run of layout outside
of its strings, a text is read as the same expression, or as little as before. -/
theorem parse_respace (text : String) (expr : Expr) :
    parse (respace text) = .ok expr ↔ parse text = .ok expr := by
  rw [parse, parse, respace, String.toList_ofList]
  exact Grammar.ofChars_respaced (respaced_singleSpaced text.toList) expr

end Expr

end Clausal
