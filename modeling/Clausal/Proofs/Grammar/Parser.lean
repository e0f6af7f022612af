import Clausal.Proofs.Grammar.Sequence

/-!
# The parser reads the grammar

The grammar of expressions: what a token derives as an operand, with the grammar of sequences
inside lists and groups. The parser decides it: a text is read as the tree that the grammar
derives, and what derives no tree is refused as unparseable.

Main statements:
* `decides_ofTokens`, `decides_ofToken`, `decides_ofChars`: what is read is exactly what is
  derived;
* `parser_exact`: the shape of what is accepted, and the uniqueness of the tree.
-/

namespace Clausal.Grammar

open Clausal.Expr Clausal.Token

/-! ## Operands -/

/-- What the tokens in parentheses derive: an operator alone, a sequence with an operator at
one of its ends, or a sequence. -/
inductive Group (Operand : Token → Expr → Prop) : List Token → Expr → Prop where
  | bare {token : Token} {op : Operator} :
      token.operator? = some op → Group Operand [token] (.bareSection op)
  | right {token : Token} {op : Operator} {rest : List Token} {operand : Expr} :
      token.operator? = some op → Sequence Operand Operator.all rest operand →
      Group Operand (token :: rest) (.rightSection op operand)
  | left {token : Token} {op : Operator} {front : List Token} {operand : Expr} :
      Sequence Operand Operator.all front operand → token.operator? = some op →
      Group Operand (front ++ [token]) (.leftSection operand op)
  | parens {tokens : List Token} {expr : Expr} :
      Sequence Operand Operator.all tokens expr → Group Operand tokens expr

/-- What a token derives. An operator derives nothing. -/
inductive Operand : Token → Expr → Prop where
  | number {token : Token} {value : Float} :
      token.kind = .number value → Operand token (.number value)
  | string {token : Token} {text : String} :
      token.kind = .string text → Operand token (.string text)
  | bool {token : Token} {name : String} {value : Bool} :
      token.kind = .identifier name → truthName? name = some value →
      Operand token (.bool value)
  | variable {token : Token} {name : String} :
      token.kind = .identifier name → truthName? name = none →
      Operand token (.variable name)
  | list {token : Token} {inner : List Char} {exprs : List Expr} :
      token.kind = .list inner →
      List.Forall₂ (fun item expr => Sequence Operand Operator.all (scan item) expr)
        (items inner) exprs →
      Operand token (.list exprs)
  | group {token : Token} {inner : List Char} {expr : Expr} :
      token.kind = .group inner → Group Operand (scan inner) expr → Operand token expr

/-- What a text derives: what its tokens derive as a sequence. -/
def OfText (text : List Char) (expr : Expr) : Prop :=
  Sequence Operand Operator.all (scan text) expr

theorem separate_operand : Separate Operand := by
  intro token expr h
  rw [operator?, symbol?]
  cases h <;> simp [*, Kind.symbol?]

/-- What a token derives does not depend on the place where it stands. -/
theorem Operand.congr_kind {token other : Token} {expr : Expr} (h : Operand token expr)
    (same : token.kind = other.kind) : Operand other expr := by
  cases h with
  | number hkind => exact .number (same ▸ hkind)
  | string hkind => exact .string (same ▸ hkind)
  | bool hkind truth => exact .bool (same ▸ hkind) truth
  | «variable» hkind plain => exact .variable (same ▸ hkind) plain
  | list hkind h => exact .list (same ▸ hkind) h
  | group hkind h => exact .group (same ▸ hkind) h

/-! ## Deciding what is derived -/

/-- A result decides a relation: it is the one thing that stands in the relation, or nothing
does and the result is the refusal of a text. -/
def Decides {α : Type} (result : Except Error α) (Derived : α → Prop) : Prop :=
  (∀ value, result = .ok value ↔ Derived value) ∧
    ∀ error, result = .error error → ∃ text, error = .unparseable text

namespace Decides

variable {α β : Type} {result : Except Error α} {Derived Other : α → Prop}

theorem congr (h : Decides result Derived) (same : ∀ value, Derived value ↔ Other value) :
    Decides result Other :=
  ⟨fun value => (h.1 value).trans (same value), h.2⟩

theorem ok {value : α} (h : ∀ other, Derived other ↔ other = value) :
    Decides (.ok value) Derived := by
  refine ⟨fun other => ?_, by simp⟩
  rw [h, Except.ok.injEq]
  exact eq_comm

theorem unparseable {text : String} (h : ∀ value, ¬ Derived value) :
    Decides (.error (.unparseable text)) Derived := by
  refine ⟨fun value => ?_, ?_⟩
  · simpa using h value
  · rintro error ⟨⟩
    exact ⟨text, rfl⟩

theorem refuse {text : List Char} (h : ∀ value, ¬ Derived value) :
    Decides (Expr.refuse text) Derived :=
  unparseable h

/-- Reading one thing after another decides that both are derived. -/
theorem bind {next : α → Except Error β} {After : α → β → Prop} (h : Decides result Derived)
    (hnext : ∀ value, Decides (next value) (After value)) :
    Decides (result >>= next) fun outcome => ∃ value, Derived value ∧ After value outcome := by
  cases result with
  | error error =>
    -- The first reading was refused, so there is no value to read after.
    obtain ⟨text, rfl⟩ := h.2 error rfl
    refine unparseable ?_
    rintro outcome ⟨value, derived, -⟩
    have := (h.1 value).mpr derived
    contradiction
  | ok value =>
    refine (hnext value).congr fun outcome => ⟨fun after => ⟨value, (h.1 value).mp rfl, after⟩, ?_⟩
    intro both
    rcases both with ⟨other, derived, after⟩
    -- The first result is the only thing derived, so it is what the second was read after.
    obtain rfl := Except.ok.inj ((h.1 other).mpr derived)
    exact after

/-- Reading one thing and wrapping it decides what is wrapped. -/
theorem map {wrap : α → β} (h : Decides result Derived) :
    Decides (do return wrap (← result)) fun outcome =>
      ∃ value, Derived value ∧ outcome = wrap value :=
  h.bind fun _ => .ok fun _ => Iff.rfl

/-- What is decided is derived at most once. -/
theorem unique (h : Decides result Derived) {value other : α} (derived : Derived value)
    (derivedOther : Derived other) : value = other :=
  Except.ok.inj (((h.1 value).mpr derived).symm.trans ((h.1 other).mpr derivedOther))

end Decides

/-! ## Groups -/

theorem group_singleton_iff {first : Token} {op : Operator}
    (hop : first.operator? = some op) {expr : Expr} :
    Group Operand [first] expr ↔ expr = .bareSection op := by
  refine ⟨?_, ?_⟩
  · intro h
    generalize htokens : [first] = tokens at h
    cases h with
    | bare hbare =>
      obtain ⟨rfl, -⟩ := List.cons.inj htokens
      rw [Option.some.inj (hbare.symm.trans hop)]
    | right _ operand =>
      -- The operand of a section holds a token, and here there is none beside the operator.
      exact absurd (List.cons.inj htokens).2.symm operand.ne_nil
    | left operand _ =>
      rw [List.singleton_eq_append_iff] at htokens
      simp [operand.ne_nil] at htokens
    | parens h =>
      subst htokens
      simp [h.head_operator? separate_operand first (by simp)] at hop
  · rintro rfl
    exact .bare hop

theorem group_cons_iff {first : Token} {rest : List Token} {op : Operator}
    (hop : first.operator? = some op) (nonempty : rest ≠ []) {expr : Expr} :
    Group Operand (first :: rest) expr ↔
      ∃ operand, Sequence Operand Operator.all rest operand ∧
        expr = .rightSection op operand := by
  refine ⟨?_, ?_⟩
  · intro h
    generalize htokens : first :: rest = tokens at h
    cases h with
    -- The bare section has nothing behind its operator.
    | bare => exact absurd (List.cons.inj htokens).2 nonempty
    | right hright operand =>
      obtain ⟨rfl, rfl⟩ := List.cons.inj htokens
      rw [Option.some.inj (hright.symm.trans hop)]
      exact ⟨_, operand, rfl⟩
    | left operand _ =>
      -- What stands before the last operator would start with an operator.
      have start := congrArg List.head? htokens
      rw [List.head?_append_of_ne_nil _ operand.ne_nil] at start
      simp [operand.head_operator? separate_operand first (by simp [← start])] at hop
    | parens h =>
      subst htokens
      simp [h.head_operator? separate_operand first (by simp)] at hop
  · intro h
    rcases h with ⟨operand, h, rfl⟩
    exact .right hop h

theorem group_concat_iff {front : List Token} {last : Token} {op : Operator}
    (hfirst : ∀ token ∈ (front ++ [last]).head?, token.operator? = none)
    (hop : last.operator? = some op) {expr : Expr} :
    Group Operand (front ++ [last]) expr ↔
      ∃ operand, Sequence Operand Operator.all front operand ∧
        expr = .leftSection operand op := by
  refine ⟨?_, ?_⟩
  · intro h
    generalize htokens : front ++ [last] = tokens at h hfirst
    cases h with
    | bare hbare => simp [hfirst _ rfl] at hbare
    | right hright => simp [hfirst _ rfl] at hright
    | left operand hleft =>
      -- The last token of a list is unique, so it is this operator.
      obtain ⟨rfl, hlast⟩ := List.append_inj' htokens rfl
      obtain ⟨rfl, -⟩ := List.cons.inj hlast
      rw [Option.some.inj (hleft.symm.trans hop)]
      exact ⟨_, operand, rfl⟩
    | parens h =>
      subst htokens
      simp [h.getLast_operator? separate_operand last (by simp)] at hop
  · intro h
    rcases h with ⟨operand, h, rfl⟩
    exact .left h hop

theorem group_iff_sequence {tokens : List Token}
    (hfirst : ∀ token ∈ tokens.head?, token.operator? = none)
    (hlast : ∀ token ∈ tokens.getLast?, token.operator? = none) {expr : Expr} :
    Group Operand tokens expr ↔ Sequence Operand Operator.all tokens expr := by
  refine ⟨?_, ?_⟩
  · intro h
    cases h with
    -- The three sections have an operator at an end, which is excluded.
    | bare hbare => simp [hfirst _ rfl] at hbare
    | right hright => simp [hfirst _ rfl] at hright
    | left _ hleft => simp [hlast _ List.getLast?_concat] at hleft
    | parens h => exact h
  · exact .parens

/-! ## The parser -/

/-- Reading the elements of a list one by one decides what they derive together. -/
theorem Decides.cons {α β : Type} {first : Except Error β} {others : Except Error (List β)}
    {Derived : α → β → Prop} {a : α} {as : List α} (hfirst : Decides first (Derived a))
    (hothers : Decides others (List.Forall₂ Derived as)) :
    Decides (do return (← first) :: (← others)) (List.Forall₂ Derived (a :: as)) := by
  refine (hfirst.bind fun _ => hothers.map).congr fun values => ?_
  rw [List.forall₂_cons_left_iff]
  refine ⟨?_, ?_⟩
  · intro h
    rcases h with ⟨value, derived, values, derivedOthers, rfl⟩
    exact ⟨value, values, derived, derivedOthers, rfl⟩
  · intro h
    rcases h with ⟨value, values, derived, derivedOthers, rfl⟩
    exact ⟨value, derived, values, derivedOthers, rfl⟩

/-- A token by itself is a sequence exactly when it is an operand. -/
theorem sequence_singleton_iff {token : Token} {expr : Expr} :
    Sequence Operand Operator.all [token] expr ↔ Operand token expr := by
  -- A cut needs something on both sides of the operator.
  have uncut : cut [token] = none := by
    rw [cut, List.findSome?_eq_none_iff]
    intro op _
    by_cases h : token.isOperator op = true <;> simp [cutAt, h]
  rw [sequence_iff_of_cut_eq_none separate_operand uncut]
  refine ⟨?_, ?_⟩
  · intro h
    rcases h with h | _
    exact h
  · exact .operand

/-- A run of several tokens is an application of the first of them. -/
theorem run_cons_cons_iff {first second : Token} {rest : List Token} {expr : Expr} :
    Run Operand (first :: second :: rest) expr ↔
      ∃ name, first.kind = .identifier name ∧ truthName? name = none ∧
        ∃ arguments, List.Forall₂ Operand (second :: rest) arguments ∧
          expr = .application name arguments := by
  refine ⟨?_, ?_⟩
  · intro h
    rcases h with _ | ⟨head, plain, operands⟩
    exact ⟨_, head, plain, _, operands, rfl⟩
  · intro h
    rcases h with ⟨name, head, plain, arguments, operands, rfl⟩
    exact .application head plain operands

mutual

/-- The parser reads what a sequence derives. -/
theorem decides_ofTokens (tokens : List Token) :
    Decides (ofTokens tokens) (Sequence Operand Operator.all tokens) := by
  match tokens with
  | [] =>
    rw [ofTokens]
    exact .refuse fun _ h => h.ne_nil rfl
  | [token] =>
    rw [ofTokens]
    exact (decides_ofToken token).congr fun expr => sequence_singleton_iff.symm
  | first :: second :: rest =>
    rw [ofTokens]
    split
    case h_1 op left right hcut =>
      -- Both sides of the cut are read as sequences of their own.
      have lighter := weight_of_cut hcut
      refine ((decides_ofTokens left).bind fun leftExpr => (decides_ofTokens right).map).congr ?_
      intro expr
      rw [sequence_iff_of_cut separate_operand hcut]
      refine ⟨?_, ?_⟩
      · intro h
        rcases h with ⟨leftExpr, before, rightExpr, after, rfl⟩
        exact ⟨leftExpr, rightExpr, rfl, before, after⟩
      · intro h
        rcases h with ⟨leftExpr, rightExpr, rfl, before, after⟩
        exact ⟨leftExpr, before, rightExpr, after, rfl⟩
    case h_2 hcut =>
      -- Nothing to cut is left, so the sequence is a run or nothing.
      have run (expr : Expr) : Sequence Operand Operator.all (first :: second :: rest) expr ↔ _ :=
        (sequence_iff_of_cut_eq_none separate_operand hcut).trans run_cons_cons_iff
      split
      case h_1 name head =>
        split
        case isTrue truth =>
          -- A truth value is applied to nothing.
          refine .refuse fun expr h => ?_
          obtain ⟨other, hother, plain, -⟩ := (run expr).mp h
          obtain rfl := Kind.identifier.inj (head.symm.trans hother)
          simp [plain] at truth
        case isFalse plain =>
          refine (decides_operands (second :: rest)).map.congr fun expr => ?_
          rw [run]
          refine ⟨?_, ?_⟩
          · intro h
            rcases h with ⟨arguments, operands, rfl⟩
            exact ⟨name, head, by simpa using plain, arguments, operands, rfl⟩
          · intro h
            rcases h with ⟨other, hother, -, arguments, operands, rfl⟩
            obtain rfl := Kind.identifier.inj (head.symm.trans hother)
            exact ⟨arguments, operands, rfl⟩
      case h_2 unnamed =>
        -- Only a name can be applied.
        refine .refuse fun expr h => ?_
        obtain ⟨name, head, -⟩ := (run expr).mp h
        exact unnamed name head
termination_by 5 * weight tokens + 3
decreasing_by
  -- A single token keeps its weight, and the summand behind the weight becomes smaller.
  · simp
  · omega
  · omega
  · have := first.kind.weight_pos; simp only [weight_cons]; omega

/-- The parser reads what each token derives as an operand. -/
theorem decides_operands (tokens : List Token) :
    Decides (operands tokens) (List.Forall₂ Operand tokens) := by
  match tokens with
  | [] =>
    rw [operands]
    exact .ok fun _ => List.forall₂_nil_left_iff
  | token :: others =>
    rw [operands]
    exact (decides_ofToken token).cons (decides_operands others)
termination_by 5 * weight tokens + 2
decreasing_by
  · simp only [weight_cons]; omega
  · have := token.kind.weight_pos; simp only [weight_cons]; omega

/-- The parser reads what a token derives. -/
theorem decides_ofToken (token : Token) : Decides (ofToken token) (Operand token) := by
  match token with
  | ⟨.number value, _, _⟩ =>
    rw [ofToken]
    -- A number, a string, a truth value and a name each have one rule, which derives one tree.
    refine .ok fun expr => ⟨?_, ?_⟩
    · intro h
      cases h <;> simp_all
    · rintro rfl
      exact .number rfl
  | ⟨.string text, _, _⟩ =>
    rw [ofToken]
    refine .ok fun expr => ⟨?_, ?_⟩
    · intro h
      cases h <;> simp_all
    · rintro rfl
      exact .string rfl
  | ⟨.identifier name, _, _⟩ =>
    rw [ofToken]
    cases truth : truthName? name with
    | some value =>
      simp only [truth]
      refine .ok fun expr => ⟨?_, ?_⟩
      · intro h
        cases h <;> simp_all
      · rintro rfl
        exact .bool rfl truth
    | none =>
      simp only [truth]
      refine .ok fun expr => ⟨?_, ?_⟩
      · intro h
        cases h <;> simp_all
      · rintro rfl
        exact .variable rfl truth
  | ⟨.operator symbol, _, _⟩ =>
    rw [ofToken]
    -- No rule derives anything from an operator.
    refine .unparseable fun expr h => ?_
    cases h <;> simp_all
  | ⟨.list inner, _, _⟩ =>
    rw [ofToken]
    -- The items of a list are inside it, and so are shorter than its token.
    have size := itemsLength_items_le inner
    refine (decides_ofItems (items inner)).map.congr fun expr => ⟨?_, ?_⟩
    · intro h
      rcases h with ⟨exprs, h, rfl⟩
      exact .list rfl h
    · intro h
      cases h with
      | list hlist h =>
        obtain rfl := Kind.list.inj hlist
        exact ⟨_, h, rfl⟩
      | _ => simp_all
  | ⟨.group inner, _, _⟩ =>
    rw [ofToken]
    refine (decides_ofGroup inner).congr fun expr => ⟨.group rfl, ?_⟩
    intro h
    cases h with
    | group hgroup h =>
      obtain rfl := Kind.group.inj hgroup
      exact h
    | _ => simp_all
termination_by 5 * token.kind.weight + 1
decreasing_by
  all_goals simp only [Kind.weight]; omega

/-- The parser reads what the tokens in parentheses derive. -/
theorem decides_ofGroup (inner : List Char) :
    Decides (ofGroup inner) (Group Operand (scan inner)) := by
  rw [ofGroup]
  split
  case h_1 htokens =>
    -- Without tokens there is neither an operator nor a sequence.
    rw [htokens]
    refine .refuse fun expr h => ?_
    exact ((group_iff_sequence (by simp) (by simp)).mp h).ne_nil rfl
  case h_2 first rest htokens =>
    rw [htokens]
    have fits : weight (first :: rest) ≤ inner.length := htokens ▸ weight_scan_le inner
    have shorter := weight_dropLast_le (first :: rest)
    have tail := weight_cons first rest
    split
    case h_1 op hop =>
      -- An operator in front makes a section, with nothing behind it the bare one.
      split
      case isTrue alone =>
        rw [List.isEmpty_iff.mp alone]
        exact .ok fun expr => group_singleton_iff hop
      case isFalse nonempty =>
        exact (decides_ofTokens rest).map.congr fun expr =>
          (group_cons_iff hop (by simpa using nonempty)).symm
    case h_2 hfirst =>
      split
      case h_1 op hlast =>
        -- An operator at the end, and none in front, makes a left section.
        obtain ⟨last, hlast, hop⟩ := Option.bind_eq_some_iff.mp hlast
        have split := List.dropLast_append_getLast? last hlast
        refine (decides_ofTokens (first :: rest).dropLast).map.congr fun expr => ?_
        rw [← split, List.dropLast_concat]
        exact (group_concat_iff (by rw [split]; simpa using hfirst) hop).symm
      case h_2 hlast =>
        -- Without an operator at either end the group is its sequence.
        refine (decides_ofTokens (first :: rest)).congr fun expr => ?_
        exact (group_iff_sequence (by simpa using hfirst) (Option.bind_eq_none_iff.mp hlast)).symm
termination_by 5 * (inner.length + 1)
decreasing_by
  all_goals omega

/-- The parser reads what each item of a list derives. -/
theorem decides_ofItems (items : List (List Char)) :
    Decides (ofItems items) (List.Forall₂ OfText items) := by
  match items with
  | [] =>
    rw [ofItems]
    exact .ok fun _ => List.forall₂_nil_left_iff
  | item :: others =>
    rw [ofItems]
    exact (decides_ofChars item).cons (decides_ofItems others)
termination_by 5 * itemsLength items
decreasing_by
  · simp only [itemsLength_cons]; omega
  · simp only [itemsLength_cons]; omega

/-- The parser reads what a text derives. -/
theorem decides_ofChars (text : List Char) :
    Decides (ofChars text) (OfText text) := by
  rw [ofChars]
  split
  · rename_i empty
    exact .refuse fun _ h => h.ne_nil (List.isEmpty_iff.mp empty)
  · exact decides_ofTokens (scan text)
termination_by 5 * text.length + 4
decreasing_by have := weight_scan_le text; omega

end

/-! ## What is accepted -/

/-- A result that is no refusal. -/
def Accepted {α : Type} (result : Except Error α) : Prop :=
  ∃ value, result = .ok value

/-- A run as it is read: an operand, or a name that is no truth value before one operand or
more. -/
def IsRun (tokens : List Token) : Prop :=
  (∃ token, tokens = [token] ∧ Accepted (ofToken token)) ∨
    ∃ head name first rest, tokens = head :: first :: rest ∧ head.kind = .identifier name ∧
      truthName? name = none ∧ ∀ token ∈ first :: rest, Accepted (ofToken token)

/-- The tokens of a group as they are read: an operator, an operator before an accepted
sequence or after one, or an accepted sequence. -/
def IsGroup (tokens : List Token) : Prop :=
  (∃ token, tokens = [token] ∧ token.operator?.isSome) ∨
    (∃ token rest, tokens = token :: rest ∧ token.operator?.isSome ∧ Accepted (ofTokens rest)) ∨
    (∃ front token, tokens = front ++ [token] ∧ Accepted (ofTokens front) ∧
      token.operator?.isSome) ∨
    Accepted (ofTokens tokens)

/-- What is decided is accepted exactly when something is derived. -/
theorem Decides.accepted_iff {α : Type} {result : Except Error α} {Derived : α → Prop}
    (h : Decides result Derived) : Accepted result ↔ ∃ value, Derived value :=
  exists_congr h.1

/-- What is decided is accepted or refused as unparseable. -/
theorem Decides.accepted_or {α : Type} {result : Except Error α} {Derived : α → Prop}
    (h : Decides result Derived) :
    Accepted result ∨ ∃ text, result = .error (.unparseable text) := by
  cases result with
  | ok value => exact .inl ⟨value, rfl⟩
  | error error =>
    obtain ⟨text, rfl⟩ := h.2 error rfl
    exact .inr ⟨text, rfl⟩

theorem exists_run_iff {tokens : List Token} :
    (∃ expr, Run Operand tokens expr) ↔ IsRun tokens := by
  refine ⟨?_, ?_⟩
  · intro h
    rcases h with ⟨expr, operand | ⟨head, plain, operands⟩⟩
    · exact .inl ⟨_, rfl, (decides_ofToken _).accepted_iff.mpr ⟨expr, operand⟩⟩
    · refine .inr ⟨_, _, _, _, rfl, head, plain, ?_⟩
      intro token mem
      exact (decides_ofToken token).accepted_iff.mpr (exists_forall₂_iff.mp ⟨_, operands⟩ token mem)
  · intro h
    rcases h with ⟨token, rfl, accepted⟩ | ⟨head, name, first, rest, rfl, hhead, plain, accepted⟩
    · obtain ⟨expr, operand⟩ := (decides_ofToken token).accepted_iff.mp accepted
      exact ⟨expr, .operand operand⟩
    · obtain ⟨arguments, operands⟩ := exists_forall₂_iff.mpr fun token mem =>
        (decides_ofToken token).accepted_iff.mp (accepted token mem)
      exact ⟨.application name arguments, .application hhead plain operands⟩

theorem exists_group_iff {tokens : List Token} :
    (∃ expr, Group Operand tokens expr) ↔ IsGroup tokens := by
  have sequence (tokens : List Token) := (decides_ofTokens tokens).accepted_iff
  refine ⟨?_, ?_⟩
  · intro h
    -- The four rules of groups, in the order of the four parts of the definition
    rcases h with ⟨expr, hop | ⟨hop, operand⟩ | ⟨operand, hop⟩ | h⟩
    · exact .inl ⟨_, rfl, by simp [hop]⟩
    · exact .inr (.inl ⟨_, _, rfl, by simp [hop], (sequence _).mpr ⟨_, operand⟩⟩)
    · exact .inr (.inr (.inl ⟨_, _, rfl, (sequence _).mpr ⟨_, operand⟩, by simp [hop]⟩))
    · exact .inr (.inr (.inr ((sequence _).mpr ⟨_, h⟩)))
  · intro h
    rcases h with ⟨token, rfl, hop⟩ | ⟨token, rest, rfl, hop, accepted⟩ |
      ⟨front, token, rfl, accepted, hop⟩ | accepted
    · obtain ⟨op, hop⟩ := Option.isSome_iff_exists.mp hop
      exact ⟨_, .bare hop⟩
    · obtain ⟨op, hop⟩ := Option.isSome_iff_exists.mp hop
      obtain ⟨operand, h⟩ := (sequence rest).mp accepted
      exact ⟨_, .right hop h⟩
    · obtain ⟨op, hop⟩ := Option.isSome_iff_exists.mp hop
      obtain ⟨operand, h⟩ := (sequence front).mp accepted
      exact ⟨_, .left h hop⟩
    · obtain ⟨expr, h⟩ := (sequence tokens).mp accepted
      exact ⟨expr, .parens h⟩

/-- **The parser accepts exactly its grammar and builds exactly the tree of precedence.**

A sequence of tokens is accepted if and only if it is made of runs with operators between
them, a group by what its tokens are, a list if and only if each of its items is accepted. The
tree that is read is the one the grammar derives, of which there is one for each accepted
sequence. Whatever is not accepted is refused as unparseable. -/
theorem parser_exact :
    (∀ tokens, Accepted (ofTokens tokens) ↔
      ∃ first rest, tokens = joined first rest ∧ IsRun first ∧
        ∀ pair ∈ rest, pair.1.operator?.isSome ∧ IsRun pair.2) ∧
    (∀ inner lexeme offset,
      Accepted (ofToken ⟨.group inner, lexeme, offset⟩) ↔ IsGroup (scan inner)) ∧
    (∀ inner lexeme offset,
      Accepted (ofToken ⟨.list inner, lexeme, offset⟩) ↔
        ∀ item ∈ items inner, Accepted (ofChars item)) ∧
    (∀ tokens expr, ofTokens tokens = .ok expr ↔ Sequence Operand Operator.all tokens expr) ∧
    (∀ token expr, ofToken token = .ok expr ↔ Operand token expr) ∧
    (∀ text expr, ofChars text = .ok expr ↔ OfText text expr) ∧
    (∀ tokens, Accepted (ofTokens tokens) ↔
      ∃! expr, Sequence Operand Operator.all tokens expr) ∧
    (∀ tokens, Accepted (ofTokens tokens) ∨
      ∃ text, ofTokens tokens = .error (.unparseable text)) ∧
    (∀ token, Accepted (ofToken token) ∨ ∃ text, ofToken token = .error (.unparseable text)) ∧
    (∀ text, Accepted (ofChars text) ∨ ∃ shown, ofChars text = .error (.unparseable shown)) := by
  refine ⟨?sequences, ?groups, ?lists, fun tokens => (decides_ofTokens tokens).1,
    fun token => (decides_ofToken token).1, fun text => (decides_ofChars text).1, ?unique,
    fun tokens => (decides_ofTokens tokens).accepted_or,
    fun token => (decides_ofToken token).accepted_or,
    fun text => (decides_ofChars text).accepted_or⟩
  case sequences =>
    intro tokens
    rw [(decides_ofTokens tokens).accepted_iff, exists_sequence_iff]
    simp only [exists_run_iff]
  case groups =>
    intro inner lexeme offset
    rw [← exists_group_iff, ofToken.eq_def]
    exact (decides_ofGroup inner).accepted_iff
  case lists =>
    intro inner lexeme offset
    rw [ofToken.eq_def]
    -- The list is accepted when its items derive something together, hence each by itself.
    refine (decides_ofItems (items inner)).map.accepted_iff.trans ?_
    simp only [(decides_ofChars _).accepted_iff]
    rw [← exists_forall₂_iff]
    refine ⟨?_, ?_⟩
    · intro h
      rcases h with ⟨_, exprs, h, -⟩
      exact ⟨exprs, h⟩
    · intro h
      rcases h with ⟨exprs, h⟩
      exact ⟨_, exprs, h, rfl⟩
  case unique =>
    intro tokens
    rw [(decides_ofTokens tokens).accepted_iff]
    refine ⟨?_, ?_⟩
    · intro h
      rcases h with ⟨expr, h⟩
      exact ⟨expr, h, fun other hother => (decides_ofTokens tokens).unique hother h⟩
    · intro h
      rcases h with ⟨expr, h, -⟩
      exact ⟨expr, h⟩

end Clausal.Grammar
