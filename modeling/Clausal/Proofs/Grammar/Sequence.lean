import Clausal.Expr.Parser
import Mathlib.Data.List.Forall2
import Mathlib.Data.List.TakeWhile

/-!
# The grammar of token sequences

A sequence of tokens is read by a grammar with one level for each operator. The level of an
operator `op` derives what the next tighter level derives, and what stands on the two sides of
an `op`: the tighter level on the left, the level itself on the right. Every operator is
therefore right associative. Inside all levels there are runs: an operand, or a name followed
by operands.

Which tokens are operands is a parameter of this module. All that is asked of it is that no
operator is one.

Main statements:
* `sequence_iff_of_cut`: where a sequence can be cut, it derives exactly the trees that join
  what its two sides derive;
* `sequence_iff_of_cut_eq_none`: where it cannot be cut, it derives exactly what it derives as
  a run;
* `exists_sequence_iff`: a sequence derives a tree if and only if it is made of runs with
  operators between them.
-/

namespace Clausal

/-- A token spells an operator exactly when the operator is what it is read as. -/
theorem Token.isOperator_iff {op : Operator} {token : Token} :
    token.isOperator op = true ↔ token.operator? = some op := by
  simp only [Token.isOperator, Token.operator?, beq_iff_eq, Option.bind_eq_some_iff,
    Operator.ofSymbol?_eq_some_iff]
  refine ⟨?_, ?_⟩
  · intro h
    exact ⟨op.symbol, h, rfl⟩
  · intro h
    rcases h with ⟨symbol, h, rfl⟩
    exact h

namespace Grammar

open Clausal.Expr

/-! ## Derivations -/

/-- A run: an operand by itself, or a name that is no truth value followed by operands. -/
inductive Run (Operand : Token → Expr → Prop) : List Token → Expr → Prop where
  | operand {token : Token} {expr : Expr} : Operand token expr → Run Operand [token] expr
  | application {head first : Token} {rest : List Token} {name : String}
      {arguments : List Expr} :
      head.kind = .identifier name → truthName? name = none →
      List.Forall₂ Operand (first :: rest) arguments →
      Run Operand (head :: first :: rest) (.application name arguments)

/-- What a sequence derives at the level of the first operator of a list. The rest of the list
are the tighter operators, and below the last of them there are runs. -/
inductive Sequence (Operand : Token → Expr → Prop) :
    List Operator → List Token → Expr → Prop where
  | run {tokens : List Token} {expr : Expr} :
      Run Operand tokens expr → Sequence Operand [] tokens expr
  | tighter {op : Operator} {ops : List Operator} {tokens : List Token} {expr : Expr} :
      Sequence Operand ops tokens expr → Sequence Operand (op :: ops) tokens expr
  | binary {op : Operator} {ops : List Operator} {left right : List Token} {token : Token}
      {leftExpr rightExpr : Expr} :
      Sequence Operand ops left leftExpr → token.operator? = some op →
      Sequence Operand (op :: ops) right rightExpr →
      Sequence Operand (op :: ops) (left ++ token :: right) (.binary op leftExpr rightExpr)

/-- A list is related to some list exactly when each of its elements is related to something. -/
theorem exists_forall₂_iff {α β : Type} {R : α → β → Prop} {as : List α} :
    (∃ bs, List.Forall₂ R as bs) ↔ ∀ a ∈ as, ∃ b, R a b := by
  induction as with
  | nil => simp
  | cons a as ih =>
    rw [List.forall_mem_cons, ← ih]
    refine ⟨?_, ?_⟩
    · intro h
      rcases h with ⟨_, _ | ⟨first, others⟩⟩
      exact ⟨⟨_, first⟩, ⟨_, others⟩⟩
    · intro h
      rcases h with ⟨⟨_, first⟩, ⟨_, others⟩⟩
      exact ⟨_, .cons first others⟩

/-- No operand is spelled like an operator. -/
def Separate (Operand : Token → Expr → Prop) : Prop :=
  ∀ token expr, Operand token expr → token.operator? = none

variable {Operand : Token → Expr → Prop} {ops : List Operator} {tokens : List Token}
  {expr : Expr}

/-! ## Operators in a sequence -/

theorem Run.ne_nil (h : Run Operand tokens expr) : tokens ≠ [] := by
  cases h <;> simp

theorem Sequence.ne_nil (h : Sequence Operand ops tokens expr) : tokens ≠ [] := by
  induction h with
  | run h => exact h.ne_nil
  | tighter _ ih => exact ih
  | binary => simp

/-- A run holds no operator. -/
theorem Run.operator?_eq_none (separate : Separate Operand) (h : Run Operand tokens expr) :
    ∀ token ∈ tokens, token.operator? = none := by
  cases h with
  | operand operand =>
    intro token mem
    rw [List.mem_singleton.mp mem]
    exact separate _ _ operand
  | application head _ operands =>
    intro token mem
    rcases List.mem_cons.mp mem with rfl | mem
    · simp [Token.operator?, Token.symbol?, Token.Kind.symbol?, head]
    · -- The tokens behind the name are operands, every one of them.
      obtain ⟨value, operand⟩ := exists_forall₂_iff.mp ⟨_, operands⟩ token mem
      exact separate _ _ operand

/-- The operators of a sequence belong to its levels. -/
theorem Sequence.mem_of_operator? (separate : Separate Operand)
    (h : Sequence Operand ops tokens expr) {token : Token} (mem : token ∈ tokens) {op : Operator}
    (spells : token.operator? = some op) : op ∈ ops := by
  induction h with
  | run h => simp [h.operator?_eq_none separate token mem] at spells
  | tighter _ ih => exact List.mem_cons_of_mem _ (ih mem)
  | binary _ between _ ihLeft ihRight =>
    -- On the left, between the sides, or on the right
    rw [List.mem_append, List.mem_cons] at mem
    rcases mem with mem | rfl | mem
    · exact List.mem_cons_of_mem _ (ihLeft mem)
    · rw [Option.some.inj (spells.symm.trans between)]
      exact List.mem_cons_self
    · exact ihRight mem

/-- No sequence starts with an operator. -/
theorem Sequence.head_operator? (separate : Separate Operand)
    (h : Sequence Operand ops tokens expr) :
    ∀ token ∈ tokens.head?, token.operator? = none := by
  induction h with
  | run h =>
    intro token mem
    exact h.operator?_eq_none separate token (List.mem_of_mem_head? mem)
  | tighter _ ih => exact ih
  | binary left _ _ ih =>
    -- The left side is not empty, so the sequence starts where it does.
    rw [List.head?_append_of_ne_nil _ left.ne_nil]
    exact ih

/-- No sequence ends with an operator. -/
theorem Sequence.getLast_operator? (separate : Separate Operand)
    (h : Sequence Operand ops tokens expr) :
    ∀ token ∈ tokens.getLast?, token.operator? = none := by
  induction h with
  | run h =>
    intro token mem
    exact h.operator?_eq_none separate token (List.mem_of_mem_getLast? mem)
  | tighter _ ih => exact ih
  | binary _ _ right _ ih =>
    rw [List.getLast?_append_of_ne_nil _ (List.cons_ne_nil _ _),
      List.getLast?_cons_of_ne_nil right.ne_nil]
    exact ih

/-! ## Moving between levels -/

/-- What a level derives, every looser level derives too. -/
theorem Sequence.loosen (h : Sequence Operand ops tokens expr) (front : List Operator) :
    Sequence Operand (front ++ ops) tokens expr := by
  -- Each looser level passes on what the level below it derives.
  induction front with
  | nil => exact h
  | cons op front ih => exact .tighter ih

/-- A run is a sequence of every level. -/
theorem Run.sequence (h : Run Operand tokens expr) : Sequence Operand ops tokens expr := by
  simpa using (Sequence.run h).loosen ops

/-- Two operands with an operator between them derive the tree that joins them. -/
theorem sequence_binary {left between right : Token} {op : Operator} {leftExpr rightExpr : Expr}
    (hleft : Operand left leftExpr) (hop : between.operator? = some op)
    (hright : Operand right rightExpr) :
    Sequence Operand Operator.all [left, between, right] (.binary op leftExpr rightExpr) := by
  obtain ⟨front, ops, levels⟩ := List.append_of_mem op.mem_all
  rw [levels]
  exact Sequence.loosen (.binary (Run.operand hleft).sequence hop (Run.operand hright).sequence)
    front

/-- A level whose operator does not occur can be left out. -/
theorem Sequence.tighten {op : Operator} (h : Sequence Operand (op :: ops) tokens expr)
    (absent : ∀ token ∈ tokens, token.isOperator op = false) :
    Sequence Operand ops tokens expr := by
  cases h with
  | tighter h => exact h
  | binary _ between _ =>
    -- The rule for the operator of the level would need an occurrence of it.
    have present := Token.isOperator_iff.mpr between
    rw [absent _ (by simp)] at present
    contradiction

/-- The levels whose operators do not occur can be left out. -/
theorem Sequence.tighten_append {front : List Operator}
    (h : Sequence Operand (front ++ ops) tokens expr)
    (absent : ∀ op ∈ front, ∀ token ∈ tokens, token.isOperator op = false) :
    Sequence Operand ops tokens expr := by
  induction front with
  | nil => exact h
  | cons op front ih =>
    rw [List.forall_mem_cons] at absent
    exact ih (h.tighten absent.1) absent.2

/-! ## Cutting a sequence -/

/-- The operator of a cut does not occur on the left of it. -/
theorem absent_left_of_cutAt {op : Operator} {left right : List Token}
    (h : cutAt op tokens = some (left, right)) : ∀ token ∈ left, token.isOperator op = false := by
  intro token mem
  unfold cutAt at h
  dsimp only at h
  split at h
  · contradiction
  · split at h
    · contradiction
    · obtain ⟨rfl, rfl⟩ := Prod.mk.inj (Option.some.inj h)
      simpa using List.mem_takeWhile_imp mem

/-- A sequence is cut at the first occurrence of an operator that has something on both
sides. -/
theorem cutAt_append {op : Operator} {token : Token} {left right : List Token}
    (leftNonempty : left ≠ []) (rightNonempty : right ≠ [])
    (spells : token.isOperator op = true)
    (absent : ∀ token ∈ left, token.isOperator op = false) :
    cutAt op (left ++ token :: right) = some (left, right) := by
  -- The walk to the first occurrence takes the whole of the left side.
  have skip : ∀ token ∈ left, (!token.isOperator op) = true := by
    intro token mem
    rw [absent token mem]
    rfl
  simp [cutAt, List.takeWhile_append_of_pos skip, List.dropWhile_append_of_pos skip, spells,
    leftNonempty, rightNonempty]

/-- An operator at which a sequence cannot be cut is absent from the sequence, unless the
sequence starts or ends with it. -/
theorem absent_of_cutAt_eq_none {op : Operator}
    (first : ∀ token ∈ tokens.head?, token.operator? = none)
    (last : ∀ token ∈ tokens.getLast?, token.operator? = none)
    (h : cutAt op tokens = none) : ∀ token ∈ tokens, token.isOperator op = false := by
  cases found : tokens.find? (Token.isOperator op) with
  | none => simpa using List.find?_eq_none.mp found
  | some token =>
    -- The cut applies at the first occurrence, unless one of its sides is empty.
    obtain ⟨spells, left, right, rfl, absent⟩ := List.find?_eq_some_iff_append.mp found
    have spelled := Token.isOperator_iff.mp spells
    have leftNonempty : left ≠ [] := by
      rintro rfl
      simp [first token (by simp)] at spelled
    have rightNonempty : right ≠ [] := by
      rintro rfl
      simp [last token (by simp)] at spelled
    rw [cutAt_append leftNonempty rightNonempty spells (by simpa using absent)] at h
    contradiction

/-- An operator at which an accepted sequence cannot be cut is absent from it. -/
theorem Sequence.absent_of_cutAt_eq_none (separate : Separate Operand)
    (h : Sequence Operand ops tokens expr) {op : Operator} (uncut : cutAt op tokens = none) :
    ∀ token ∈ tokens, token.isOperator op = false :=
  Grammar.absent_of_cutAt_eq_none (h.head_operator? separate) (h.getLast_operator? separate) uncut

/-- The tree of a sequence at the level of the operator it is cut at. -/
theorem Sequence.of_cutAt (separate : Separate Operand) {op : Operator} (fresh : op ∉ ops)
    {left right : List Token} (h : Sequence Operand (op :: ops) tokens expr)
    (hcut : cutAt op tokens = some (left, right)) :
    ∃ leftExpr rightExpr, expr = .binary op leftExpr rightExpr ∧
      Sequence Operand ops left leftExpr ∧ Sequence Operand (op :: ops) right rightExpr := by
  cases h with
  | tighter h =>
    -- A tighter sequence cannot hold the operator it is cut at.
    obtain ⟨token, spells, rfl⟩ := eq_append_of_cutAt hcut
    exact absurd (h.mem_of_operator? separate (by simp) (Token.isOperator_iff.mp spells)) fresh
  | binary before between after =>
    rename_i front back _ _ _
    -- The tighter sequence on the left ends where the operator occurs first.
    have absent : ∀ token ∈ front, token.isOperator op = false := by
      intro token mem
      rw [Bool.eq_false_iff, ne_eq, Token.isOperator_iff]
      intro spells
      exact fresh (before.mem_of_operator? separate mem spells)
    rw [cutAt_append before.ne_nil after.ne_nil (Token.isOperator_iff.mpr between) absent] at hcut
    obtain ⟨rfl, rfl⟩ := Prod.mk.inj (Option.some.inj hcut)
    exact ⟨_, _, rfl, before, after⟩

/-- The levels around the operator of a cut. No looser operator cuts the sequence. -/
theorem levels_of_cut {op : Operator} {left right : List Token}
    (h : cut tokens = some (op, left, right)) :
    ∃ front ops, Operator.all = front ++ op :: ops ∧ op ∉ ops ∧
      ∀ looser ∈ front, cutAt looser tokens = none := by
  obtain ⟨front, found, ops, levels, hfound, uncut⟩ := List.findSome?_eq_some_iff.mp h
  obtain ⟨sides, -, hsides⟩ := Option.map_eq_some_iff.mp hfound
  obtain rfl : found = op := congrArg Prod.fst hsides
  -- Every operator has one level only.
  have distinct : Operator.all.Nodup := by decide
  rw [levels, List.nodup_append, List.nodup_cons] at distinct
  refine ⟨front, ops, levels, distinct.2.1.1, ?_⟩
  intro looser mem
  exact Option.map_eq_none_iff.mp (uncut looser mem)

/-- **Where a sequence can be cut, it derives exactly the trees that join what its sides
derive.** -/
theorem sequence_iff_of_cut (separate : Separate Operand) {op : Operator}
    {left right : List Token} (hcut : cut tokens = some (op, left, right)) :
    Sequence Operand Operator.all tokens expr ↔
      ∃ leftExpr rightExpr, expr = .binary op leftExpr rightExpr ∧
        Sequence Operand Operator.all left leftExpr ∧
        Sequence Operand Operator.all right rightExpr := by
  obtain ⟨front, ops, levels, fresh, uncut⟩ := levels_of_cut hcut
  have hcutAt := cutAt_of_cut hcut
  rw [levels]
  refine ⟨?_, ?_⟩
  · intro h
    -- The looser operators do not occur at all, so their levels fall away.
    have tight := h.tighten_append fun looser mem =>
      h.absent_of_cutAt_eq_none separate (uncut looser mem)
    obtain ⟨leftExpr, rightExpr, rfl, before, after⟩ := tight.of_cutAt separate fresh hcutAt
    exact ⟨leftExpr, rightExpr, rfl, Sequence.loosen (.tighter before) front, after.loosen front⟩
  · intro h
    rcases h with ⟨leftExpr, rightExpr, rfl, before, after⟩
    obtain ⟨token, spells, rfl⟩ := eq_append_of_cutAt hcutAt
    -- The sequence starts and ends like its sides, so a looser operator would cut it.
    have absent : ∀ looser ∈ front, ∀ other ∈ left ++ token :: right,
        other.isOperator looser = false := by
      intro looser mem
      refine absent_of_cutAt_eq_none ?_ ?_ (uncut looser mem)
      · rw [List.head?_append_of_ne_nil _ before.ne_nil]
        exact before.head_operator? separate
      · rw [List.getLast?_append_of_ne_nil _ (List.cons_ne_nil _ _),
          List.getLast?_cons_of_ne_nil after.ne_nil]
        exact after.getLast_operator? separate
    have tightLeft := before.tighten_append fun looser mem other inside =>
      absent looser mem other (by simp [inside])
    have tightRight := after.tighten_append fun looser mem other inside =>
      absent looser mem other (by simp [inside])
    exact Sequence.loosen (.binary (tightLeft.tighten (absent_left_of_cutAt hcutAt))
      (Token.isOperator_iff.mp spells) tightRight) front

/-- **Where a sequence cannot be cut, it derives exactly what it derives as a run.** -/
theorem sequence_iff_of_cut_eq_none (separate : Separate Operand) (hcut : cut tokens = none) :
    Sequence Operand Operator.all tokens expr ↔ Run Operand tokens expr := by
  have uncut (op : Operator) : cutAt op tokens = none :=
    Option.map_eq_none_iff.mp (List.findSome?_eq_none_iff.mp hcut op op.mem_all)
  refine ⟨?_, ?_⟩
  · intro h
    -- No operator occurs, so every level falls away and the run is left.
    have levels : Sequence Operand (Operator.all ++ []) tokens expr := by simpa using h
    have run := levels.tighten_append fun op _ => h.absent_of_cutAt_eq_none separate (uncut op)
    cases run with
    | run run => exact run
  · exact Run.sequence

/-! ## Accepted sequences -/

/-- The tokens of runs with a token before each of them but the first. -/
def joined (first : List Token) (rest : List (Token × List Token)) : List Token :=
  first ++ rest.flatMap fun pair => pair.1 :: pair.2

/-- Each pair is an operator of these levels with a run after it. -/
def Linked (Operand : Token → Expr → Prop) (ops : List Operator)
    (rest : List (Token × List Token)) : Prop :=
  ∀ pair ∈ rest, (∃ op ∈ ops, pair.1.operator? = some op) ∧ ∃ expr, Run Operand pair.2 expr

/-- Runs with operators of these levels between them derive a tree. -/
theorem exists_sequence_joined {first : List Token} {rest : List (Token × List Token)}
    (hfirst : ∃ expr, Run Operand first expr) (hrest : Linked Operand ops rest) :
    ∃ expr, Sequence Operand ops (joined first rest) expr := by
  induction ops generalizing first rest with
  | nil =>
    obtain ⟨expr, run⟩ := hfirst
    -- There are no operators at this level, so there is one run only.
    cases rest with
    | nil => exact ⟨expr, by simpa [joined] using Sequence.run run⟩
    | cons pair rest => simpa using (hrest pair List.mem_cons_self).1
  | cons op ops ihOps =>
    -- Walk over the runs. Those before the next `op` are gathered and derived more tightly.
    suffices walk : ∀ (rest gathered : List (Token × List Token)) (first : List Token),
        (∃ expr, Run Operand first expr) → Linked Operand ops gathered →
        Linked Operand (op :: ops) rest →
        ∃ expr, Sequence Operand (op :: ops) (joined first (gathered ++ rest)) expr from
      walk rest [] first hfirst (by simp [Linked]) hrest
    clear hfirst hrest first rest
    intro rest
    induction rest with
    | nil =>
      intro gathered first hfirst hgathered _
      obtain ⟨expr, h⟩ := ihOps hfirst hgathered
      exact ⟨expr, .tighter (by simpa using h)⟩
    | cons pair rest ih =>
      intro gathered first hfirst hgathered hrest
      obtain ⟨⟨⟨other, mem, spells⟩, run⟩, hrest⟩ := List.forall_mem_cons.mp hrest
      rcases List.mem_cons.mp mem with rfl | mem
      · -- The level's own operator: what is gathered is its left side.
        obtain ⟨leftExpr, left⟩ := ihOps hfirst hgathered
        obtain ⟨rightExpr, right⟩ := ih [] pair.2 run (by simp [Linked]) hrest
        refine ⟨.binary other leftExpr rightExpr, ?_⟩
        simpa [joined] using Sequence.binary left spells right
      · -- A tighter operator: its run is gathered too.
        have hgathered : Linked Operand ops (gathered ++ [pair]) := by
          refine List.forall_mem_append.mpr ⟨hgathered, ?_⟩
          rw [List.forall_mem_singleton]
          exact ⟨⟨other, mem, spells⟩, run⟩
        obtain ⟨expr, h⟩ := ih (gathered ++ [pair]) first hfirst hgathered hrest
        exact ⟨expr, by simpa using h⟩

/-- What derives a tree is made of runs with operators between them. -/
theorem Sequence.exists_joined (h : Sequence Operand ops tokens expr) :
    ∃ first rest, tokens = joined first rest ∧ (∃ expr, Run Operand first expr) ∧
      ∀ pair ∈ rest, pair.1.operator?.isSome ∧ ∃ expr, Run Operand pair.2 expr := by
  induction h with
  | run run => exact ⟨_, [], by simp [joined], ⟨_, run⟩, by simp⟩
  | tighter _ ih => exact ih
  | binary _ between _ ihLeft ihRight =>
    rename_i token _ _ _ _
    -- The runs of the left side, the operator, and the runs of the right side
    obtain ⟨first, before, rfl, hfirst, hbefore⟩ := ihLeft
    obtain ⟨second, after, rfl, hsecond, hafter⟩ := ihRight
    refine ⟨first, before ++ (token, second) :: after, by simp [joined], hfirst, ?_⟩
    rw [List.forall_mem_append, List.forall_mem_cons]
    exact ⟨hbefore, ⟨by simp [between], hsecond⟩, hafter⟩

/-- **A sequence derives a tree exactly when it is made of runs with operators between
them.** -/
theorem exists_sequence_iff :
    (∃ expr, Sequence Operand Operator.all tokens expr) ↔
      ∃ first rest, tokens = joined first rest ∧ (∃ expr, Run Operand first expr) ∧
        ∀ pair ∈ rest, pair.1.operator?.isSome ∧ ∃ expr, Run Operand pair.2 expr := by
  refine ⟨?_, ?_⟩
  · intro h
    rcases h with ⟨expr, h⟩
    exact h.exists_joined
  · intro h
    rcases h with ⟨first, rest, rfl, hfirst, hrest⟩
    refine exists_sequence_joined hfirst ?_
    intro pair mem
    obtain ⟨op, spells⟩ := Option.isSome_iff_exists.mp (hrest pair mem).1
    exact ⟨⟨op, op.mem_all, spells⟩, (hrest pair mem).2⟩

end Grammar

end Clausal
