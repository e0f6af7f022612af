import Clausal.Proofs.Evaluation.Derivation

/-!
# Evaluation and derivations agree

A derivation is followed by every evaluation that has as many levels left as it is high. The
other way round, an evaluation that does not report its limit follows a derivation no higher
than the levels it was given.

Main statements:
- `run_of_derives`: with as many levels as a derivation is high, evaluation gives its result;
- `limitOrDerives_task`: evaluation either reports its limit or follows a derivation.
-/

namespace Clausal

/-! ## Levels -/

/-- An interpreter with another limit. -/
def Interpreter.withLimit (interp : Interpreter) (limit : Nat) : Interpreter :=
  { interp with maxDepth := limit }

/-- How an interpreter with this limit applies names when `depth` levels are left. -/
def Interpreter.applyAt (interp : Interpreter) (limit depth : Nat) : Application :=
  applyName interp.registry ((interp.withLimit limit).applyUser depth)

section ApplyAt

variable {interp : Interpreter} {limit depth : Nat} {name : String} {arguments : List Value}
  {clauses : List Clause}

theorem applyAt_higherOrder {builtin : HigherOrder}
    (hb : HigherOrder.ofName? name = some builtin) :
    interp.applyAt limit depth name arguments =
      builtin.run arguments fun callable fewer _ =>
        callable.call (interp.applyAt limit depth) fewer :=
  applyName_higherOrder hb

theorem applyAt_tool {tool : Tool} (hb : HigherOrder.ofName? name = none)
    (ht : interp.registry.get? name = some tool) :
    interp.applyAt limit depth name arguments = tool.apply name arguments :=
  applyName_tool hb ht

theorem applyAt_undefined (hb : HigherOrder.ofName? name = none)
    (ht : interp.registry.get? name = none)
    (hd : interp.definitions.get? name = none) :
    interp.applyAt limit depth name arguments = .error (.undefinedFunction name) :=
  (applyName_user hb ht).trans ((interp.withLimit limit).applyUser_undefined hd depth)

theorem applyAt_zero (hb : HigherOrder.ofName? name = none)
    (ht : interp.registry.get? name = none)
    (hd : interp.definitions.get? name = some clauses) :
    interp.applyAt limit 0 name arguments = .error (.recursionLimit limit) :=
  (applyName_user hb ht).trans ((interp.withLimit limit).applyUser_zero hd)

theorem applyAt_unmatched (hb : HigherOrder.ofName? name = none)
    (ht : interp.registry.get? name = none)
    (hd : interp.definitions.get? name = some clauses)
    (hm : firstMatch? clauses arguments = none) :
    interp.applyAt limit (depth + 1) name arguments =
      .error (.noClauseMatched name (arguments.map Value.text)) :=
  (applyName_user hb ht).trans ((interp.withLimit limit).applyUser_unmatched hd hm depth)

theorem applyAt_matched {body : Expr} {bindings : Bindings}
    (hb : HigherOrder.ofName? name = none) (ht : interp.registry.get? name = none)
    (hd : interp.definitions.get? name = some clauses)
    (hm : firstMatch? clauses arguments = some (body, bindings)) :
    interp.applyAt limit (depth + 1) name arguments =
      body.evalIn (interp.scope bindings) (interp.applyAt limit depth) :=
  (applyName_user hb ht).trans ((interp.withLimit limit).applyUser_matched hd hm depth)

end ApplyAt

/-! ## Tasks -/

/-- The result of a task when names are applied as given. -/
def Task.run (interp : Interpreter) (apply : Application) : Task → Result
  | .eval expr frame => expr.evalIn (interp.scope frame) apply
  | .evalAll exprs frame => (Expr.evalAllIn (interp.scope frame) apply exprs).map .list
  | .apply name arguments => apply name arguments
  | .call callable arguments => callable.call apply arguments
  | .map callable items =>
    (HigherOrder.mapItems (fun item => callable.call apply [item]) items).map .list
  | .filter callable items =>
    (HigherOrder.filterItems (fun item => callable.call apply [item]) items).map .list
  | .fold callable start items =>
    HigherOrder.foldItems (fun acc item => callable.call apply [acc, item]) start items

/-! ## From derivations to evaluation -/

/-- A derivation is followed by every evaluation that has as many levels as it is high. -/
theorem run_of_derives {interp : Interpreter} {task : Task} {result : Result} {height : Nat}
    (h : Derives interp task result height) {limit depth : Nat} (hle : height ≤ depth) :
    task.run interp (interp.applyAt limit depth) = result := by
  -- A premise is no higher than its conclusion, and only a user function takes a level, so `depth`
  -- varies.
  induction h generalizing depth with
  -- Rules without premises
  | number | string | bool | lookup | bareSection | evalNil | operator | left | right | mapNil
    | filterNil | foldNil => rfl
  -- Rules that pass on the result of their premise
  | list _ ih | named _ ih => exact ih hle
  -- Operands from left to right: the first error is the result
  | binaryLeft _ ih => exact bind_of_eq_error (ih hle)
  | binaryRight _ _ ih₁ ih₂ =>
    obtain ⟨h₁, h₂⟩ := Nat.max_le.1 hle
    exact (bind_of_eq_ok (ih₁ h₁)).trans (bind_of_eq_error (ih₂ h₂))
  | binary _ _ ih₁ ih₂ =>
    obtain ⟨h₁, h₂⟩ := Nat.max_le.1 hle
    exact (bind_of_eq_ok (ih₁ h₁)).trans (bind_of_eq_ok (ih₂ h₂))
  | leftSection _ ih | rightSection _ ih => exact bind_of_eq_ok (ih hle)
  | leftSectionOperand _ ih | rightSectionOperand _ ih => exact bind_of_eq_error (ih hle)
  -- Applications: the arguments before the head
  | arguments _ ih => exact bind_of_eq_error (map_list_eq_error.1 (ih hle))
  | headFunction _ hvalue _ ih₁ ih₂ =>
    obtain ⟨h₁, h₂⟩ := Nat.max_le.1 hle
    refine (bind_of_eq_ok (map_list_eq_ok.1 (ih₁ h₁))).trans ?_
    rw [Scope.applyHead, hvalue]
    exact ih₂ h₂
  | headMismatch _ hvalue hne ih =>
    refine (bind_of_eq_ok (map_list_eq_ok.1 (ih hle))).trans ?_
    simp only [Scope.applyHead, hvalue]
  | headName _ hvalue _ ih₁ ih₂ =>
    obtain ⟨h₁, h₂⟩ := Nat.max_le.1 hle
    refine (bind_of_eq_ok (map_list_eq_ok.1 (ih₁ h₁))).trans ?_
    rw [Scope.applyHead, hvalue]
    exact ih₂ h₂
  -- Walks over a list
  | evalHead _ ih | mapHead _ ih | filterHead _ ih =>
    exact map_list_eq_error.2 (bind_of_eq_error (ih hle))
  | evalTail _ _ ih₁ ih₂ | mapTail _ _ ih₁ ih₂ | filterTail _ _ ih₁ ih₂ =>
    obtain ⟨h₁, h₂⟩ := Nat.max_le.1 hle
    have htail := map_list_eq_error.1 (ih₂ h₂)
    exact map_list_eq_error.2 ((bind_of_eq_ok (ih₁ h₁)).trans (bind_of_eq_error htail))
  | evalCons _ _ ih₁ ih₂ | mapCons _ _ ih₁ ih₂ | filterCons _ _ ih₁ ih₂ =>
    obtain ⟨h₁, h₂⟩ := Nat.max_le.1 hle
    have htail := map_list_eq_ok.1 (ih₂ h₂)
    exact map_list_eq_ok.2 ((bind_of_eq_ok (ih₁ h₁)).trans (bind_of_eq_ok htail))
  | foldStop _ ih => exact bind_of_eq_error (ih hle)
  | foldStep _ _ ih₁ ih₂ =>
    obtain ⟨h₁, h₂⟩ := Nat.max_le.1 hle
    exact (bind_of_eq_ok (ih₁ h₁)).trans (ih₂ h₂)
  -- Names
  | builtinArity hb harity =>
    exact (applyAt_higherOrder hb).trans (HigherOrder.run_of_length_ne _ harity)
  | builtinFunction hb harity hhead hf =>
    exact (applyAt_higherOrder hb).trans
      (HigherOrder.run_of_asCallable_eq_error _ harity hhead hf)
  | builtinList hb harity hhead hf hlast hl =>
    exact (applyAt_higherOrder hb).trans
      (HigherOrder.run_of_asList_eq_error _ harity hhead hf hlast hl)
  | map hb hf hl _ ih =>
    exact (applyAt_higherOrder hb).trans ((HigherOrder.run_map _ hf hl).trans (ih hle))
  | filter hb hf hl _ ih =>
    exact (applyAt_higherOrder hb).trans ((HigherOrder.run_filter _ hf hl).trans (ih hle))
  | fold hb hf hl _ ih =>
    exact (applyAt_higherOrder hb).trans ((HigherOrder.run_fold _ hf hl).trans (ih hle))
  | tool hb ht => exact applyAt_tool hb ht
  | undefined hb ht hd => exact applyAt_undefined hb ht hd
  -- User functions: a derivation that ends here has a height, so a level is left
  | unmatched hb ht hd hm =>
    obtain ⟨depth, rfl⟩ := Nat.exists_eq_add_of_le' hle
    exact applyAt_unmatched hb ht hd hm
  | matched hb ht hd hm _ ih =>
    obtain ⟨depth, rfl⟩ := Nat.exists_eq_add_of_le' (Nat.le_trans (Nat.le_add_left 1 _) hle)
    exact (applyAt_matched hb ht hd hm).trans (ih (by omega))
  | operatorArity hne => exact Callable.call_operator_of_length_ne hne
  | leftArity hne => exact Callable.call_left_of_length_ne hne
  | rightArity hne => exact Callable.call_right_of_length_ne hne

/-! ## From evaluation to derivations -/

/-- Without exceeding its limit, the task has this result by a derivation that is no higher
than the levels that are left; or the limit is reported. -/
def LimitOrDerives (interp : Interpreter) (limit depth : Nat) (task : Task) (result : Result) :
    Prop :=
  result = .error (.recursionLimit limit) ∨
    ∃ height, height ≤ depth ∧ Derives interp task result height

section LimitOrDerives

variable {interp : Interpreter} {limit depth : Nat}

theorem LimitOrDerives.of_derives {task : Task} {result : Result}
    (h : Derives interp task result 0) : LimitOrDerives interp limit depth task result :=
  .inr ⟨0, Nat.zero_le depth, h⟩

/-- A value is no report of the limit. -/
theorem LimitOrDerives.exists_of_ok {task : Task} {value : Value}
    (h : LimitOrDerives interp limit depth task (.ok value)) :
    ∃ height, height ≤ depth ∧ Derives interp task (.ok value) height := by
  rcases h with h | h
  · cases h
  · exact h

/-- A task passes on the error of a part of it. -/
theorem LimitOrDerives.mono {part task : Task} {result : Result}
    (h : LimitOrDerives interp limit depth part result)
    (hstep : ∀ height, Derives interp part result height → Derives interp task result height) :
    LimitOrDerives interp limit depth task result := by
  -- A report of the limit is passed on as it is.
  rcases h with h | ⟨height, hle, hd⟩
  · exact .inl h
  · exact .inr ⟨height, hle, hstep height hd⟩

/-- A task ends as its second part does, after the first part had a value. -/
theorem LimitOrDerives.then {first second task : Task} {value : Value} {result : Result}
    (h : LimitOrDerives interp limit depth first (.ok value))
    (hsecond : LimitOrDerives interp limit depth second result)
    (hstep : ∀ h k, Derives interp first (.ok value) h → Derives interp second result k →
      Derives interp task result (max h k)) :
    LimitOrDerives interp limit depth task result := by
  -- The whole is as high as the higher of its parts, and both are within the levels.
  obtain ⟨height, hle, hd⟩ := h.exists_of_ok
  rcases hsecond with hlimit | ⟨height', hle', hd'⟩
  · exact .inl hlimit
  · exact .inr ⟨max height height', Nat.max_le.2 ⟨hle, hle'⟩, hstep height height' hd hd'⟩

/-- A task that puts the values of two parts together. -/
theorem LimitOrDerives.both {first second task : Task} {a b : Value} {result : Result}
    (hfirst : LimitOrDerives interp limit depth first (.ok a))
    (hsecond : LimitOrDerives interp limit depth second (.ok b))
    (hstep : ∀ h k, Derives interp first (.ok a) h → Derives interp second (.ok b) k →
      Derives interp task result (max h k)) :
    LimitOrDerives interp limit depth task result := by
  obtain ⟨h, hle, hd⟩ := hfirst.exists_of_ok
  obtain ⟨k, kle, kd⟩ := hsecond.exists_of_ok
  exact .inr ⟨max h k, Nat.max_le.2 ⟨hle, kle⟩, hstep h k hd kd⟩

/-- A task goes on with the value of its first part, and passes on its error. -/
theorem LimitOrDerives.bind {first task : Task} {result : Result} {next : Value → Result}
    (h : LimitOrDerives interp limit depth first result)
    (herror : ∀ error, LimitOrDerives interp limit depth first (.error error) →
      LimitOrDerives interp limit depth task (.error error))
    (hok : ∀ value, LimitOrDerives interp limit depth first (.ok value) →
      LimitOrDerives interp limit depth task (next value)) :
    LimitOrDerives interp limit depth task (result >>= next) := by
  cases result with
  | error error => exact herror error h
  | ok value => exact hok value h

/-- A task goes on with the values that its first part lists, and passes on its error. -/
theorem LimitOrDerives.bindAll {first task : Task} {results : Except Error (List Value)}
    {next : List Value → Result}
    (h : LimitOrDerives interp limit depth first (results.map .list))
    (herror : ∀ error, LimitOrDerives interp limit depth first (.error error) →
      LimitOrDerives interp limit depth task (.error error))
    (hok : ∀ values, LimitOrDerives interp limit depth first (.ok (.list values)) →
      LimitOrDerives interp limit depth task (next values)) :
    LimitOrDerives interp limit depth task (results >>= next) := by
  cases results with
  | error error => exact herror error h
  | ok values => exact hok values h

end LimitOrDerives

section Callbacks

open HigherOrder

variable {interp : Interpreter} {limit depth : Nat} {apply : Application} {callable : Callable}

theorem limitOrDerives_mapItems
    (hcall : ∀ item, LimitOrDerives interp limit depth (.call callable [item])
      (callable.call apply [item])) :
    (items : List Value) → LimitOrDerives interp limit depth (.map callable items)
      ((mapItems (fun item => callable.call apply [item]) items).map .list)
  | [] => .of_derives .mapNil
  | item :: items => by
    -- Each step of the loop has a rule for its error and one for its value.
    rw [mapItems, map_list_bind]
    refine (hcall item).bind (fun _ h => h.mono fun _ => .mapHead) fun value hvalue => ?_
    rw [map_list_bind]
    refine (limitOrDerives_mapItems hcall items).bindAll
      (fun _ h => hvalue.then h fun _ _ => .mapTail) fun values hvalues => ?_
    exact hvalue.both hvalues fun _ _ => .mapCons

theorem limitOrDerives_filterItems
    (hcall : ∀ item, LimitOrDerives interp limit depth (.call callable [item])
      (callable.call apply [item])) :
    (items : List Value) → LimitOrDerives interp limit depth (.filter callable items)
      ((filterItems (fun item => callable.call apply [item]) items).map .list)
  | [] => .of_derives .filterNil
  | item :: items => by
    rw [filterItems, map_list_bind]
    refine (hcall item).bind (fun _ h => h.mono fun _ => .filterHead) fun verdict hverdict => ?_
    rw [map_list_bind]
    refine (limitOrDerives_filterItems hcall items).bindAll
      (fun _ h => hverdict.then h fun _ _ => .filterTail) fun kept hkept => ?_
    exact hverdict.both hkept fun _ _ => .filterCons

theorem limitOrDerives_foldItems
    (hcall : ∀ acc item, LimitOrDerives interp limit depth (.call callable [acc, item])
      (callable.call apply [acc, item])) :
    (items : List Value) → (start : Value) →
      LimitOrDerives interp limit depth (.fold callable start items)
        (foldItems (fun acc item => callable.call apply [acc, item]) start items)
  | [], start => .of_derives .foldNil
  | item :: items, start => by
    rw [foldItems]
    refine (hcall start item).bind (fun _ h => h.mono fun _ => .foldStop) fun next hnext => ?_
    exact hnext.then (limitOrDerives_foldItems hcall items next) fun _ _ => .foldStep

theorem limitOrDerives_run {name : String} {arguments : List Value} {builtin : HigherOrder}
    (hb : HigherOrder.ofName? name = some builtin)
    (hcall : ∀ callable fewer, fewer.length < arguments.length →
      LimitOrDerives interp limit depth (.call callable fewer) (callable.call apply fewer)) :
    LimitOrDerives interp limit depth (.apply name arguments)
      (builtin.run arguments fun callable fewer _ => callable.call apply fewer) := by
  by_cases harity : arguments.length = builtin.arity
  · obtain ⟨rfl, function, list, rfl⟩ | ⟨rfl, function, list, rfl⟩ |
      ⟨rfl, function, start, list, rfl⟩ := exists_arguments harity
    all_goals
      -- The three builtins share the two faults that come before their loops.
      rcases hf : function.asCallable with error | callable
      · rw [run_of_asCallable_eq_error _ harity rfl hf]
        exact .of_derives (.builtinFunction hb harity rfl hf)
      rcases hl : list.asList with error | items
      · rw [run_of_asList_eq_error _ harity rfl hf rfl hl]
        exact .of_derives (.builtinList hb harity rfl hf rfl hl)
    · rw [run_map _ hf hl]
      have hitem (item : Value) := hcall callable [item] (by simp)
      exact (limitOrDerives_mapItems hitem items).mono fun _ => .map hb hf hl
    · rw [run_filter _ hf hl]
      have hitem (item : Value) := hcall callable [item] (by simp)
      exact (limitOrDerives_filterItems hitem items).mono fun _ => .filter hb hf hl
    · rw [run_fold _ hf hl]
      have hitem (acc item : Value) := hcall callable [acc, item] (by simp)
      exact (limitOrDerives_foldItems hitem items start).mono fun _ => .fold hb hf hl
  · rw [run_of_length_ne _ harity]
    exact .of_derives (.builtinArity hb harity)

end Callbacks

section Layers

variable {interp : Interpreter} {limit depth : Nat} {apply : Application}

theorem limitOrDerives_call {arguments : List Value}
    (h : ∀ name, LimitOrDerives interp limit depth (.apply name arguments) (apply name arguments))
    (callable : Callable) :
    LimitOrDerives interp limit depth (.call callable arguments)
      (callable.call apply arguments) := by
  cases callable with
  | named name => exact (h name).mono fun _ => .named
  | operator op =>
    by_cases harity : arguments.length = 2
    · obtain ⟨first, second, rfl⟩ := List.length_eq_two.1 harity
      exact .of_derives .operator
    · rw [Callable.call_operator_of_length_ne harity]
      exact .of_derives (.operatorArity harity)
  | left operand op =>
    by_cases harity : arguments.length = 1
    · obtain ⟨argument, rfl⟩ := List.length_eq_one_iff.1 harity
      exact .of_derives .left
    · rw [Callable.call_left_of_length_ne harity]
      exact .of_derives (.leftArity harity)
  | right op operand =>
    by_cases harity : arguments.length = 1
    · obtain ⟨argument, rfl⟩ := List.length_eq_one_iff.1 harity
      exact .of_derives .right
    · rw [Callable.call_right_of_length_ne harity]
      exact .of_derives (.rightArity harity)

mutual

theorem limitOrDerives_eval (frame : Bindings)
    (h : ∀ name arguments, LimitOrDerives interp limit depth (.apply name arguments)
      (apply name arguments)) :
    (expr : Expr) → LimitOrDerives interp limit depth (.eval expr frame)
      (expr.evalIn (interp.scope frame) apply)
  | .number value => .of_derives .number
  | .string text => .of_derives .string
  | .bool value => .of_derives .bool
  | .list items => (limitOrDerives_evalAll frame h items).mono fun _ => .list
  | .variable name => .of_derives .lookup
  | .binary op left right => by
    rw [Expr.evalIn]
    -- The error of the right operand comes with a derivation for the left one.
    refine (limitOrDerives_eval frame h left).bind
      (fun _ h => h.mono fun _ => .binaryLeft) fun a hleft => ?_
    refine (limitOrDerives_eval frame h right).bind
      (fun _ h => hleft.then h fun _ _ => .binaryRight) fun b hright => ?_
    exact hleft.both hright fun _ _ => .binary
  | .application name arguments => by
    rw [Expr.evalIn]
    refine (limitOrDerives_evalAll frame h arguments).bindAll
      (fun _ h => h.mono fun _ => .arguments) fun values harguments => ?_
    -- One rule for each of the three things a head can be.
    unfold Scope.applyHead
    cases hvalue : (interp.scope frame).value? name with
    | none =>
      exact harguments.then (h name values) fun _ _ hargs => .headName hargs hvalue
    | some value =>
      cases value with
      | function callable =>
        have hcall := limitOrDerives_call (fun inner => h inner values) callable
        exact harguments.then hcall fun _ _ hargs => .headFunction hargs hvalue
      | _ =>
        -- Any other value cannot be called.
        obtain ⟨height, hle, hd⟩ := harguments.exists_of_ok
        exact .inr ⟨height, hle, .headMismatch hd hvalue (fun _ => nofun)⟩
  | .bareSection op => .of_derives .bareSection
  | .leftSection operand op => by
    rw [Expr.evalIn]
    refine (limitOrDerives_eval frame h operand).bind
      (fun _ h => h.mono fun _ => .leftSectionOperand) fun value hvalue => ?_
    obtain ⟨height, hle, hd⟩ := hvalue.exists_of_ok
    exact .inr ⟨height, hle, .leftSection hd⟩
  | .rightSection op operand => by
    rw [Expr.evalIn]
    refine (limitOrDerives_eval frame h operand).bind
      (fun _ h => h.mono fun _ => .rightSectionOperand) fun value hvalue => ?_
    obtain ⟨height, hle, hd⟩ := hvalue.exists_of_ok
    exact .inr ⟨height, hle, .rightSection hd⟩

theorem limitOrDerives_evalAll (frame : Bindings)
    (h : ∀ name arguments, LimitOrDerives interp limit depth (.apply name arguments)
      (apply name arguments)) :
    (exprs : List Expr) → LimitOrDerives interp limit depth (.evalAll exprs frame)
      ((Expr.evalAllIn (interp.scope frame) apply exprs).map .list)
  | [] => .of_derives .evalNil
  | expr :: exprs => by
    rw [Expr.evalAllIn, map_list_bind]
    refine (limitOrDerives_eval frame h expr).bind
      (fun _ h => h.mono fun _ => .evalHead) fun value hvalue => ?_
    rw [map_list_bind]
    refine (limitOrDerives_evalAll frame h exprs).bindAll
      (fun _ h => hvalue.then h fun _ _ => .evalTail) fun values hvalues => ?_
    exact hvalue.both hvalues fun _ _ => .evalCons

end

end Layers

/-- Names, given user functions, by recursion on the number of arguments. -/
theorem limitOrDerives_name {interp : Interpreter} {limit depth : Nat}
    (huser : ∀ name arguments, HigherOrder.ofName? name = none →
      interp.registry.get? name = none →
      LimitOrDerives interp limit depth (.apply name arguments)
        (interp.applyAt limit depth name arguments))
    (name : String) (arguments : List Value) :
    LimitOrDerives interp limit depth (.apply name arguments)
      (interp.applyAt limit depth name arguments) := by
  -- The recursion of `applyName`: the callbacks of a builtin have fewer arguments.
  induction name, arguments using applyName.induct interp.registry with
  | case1 name arguments builtin hb ih =>
    rw [applyAt_higherOrder hb]
    exact limitOrDerives_run hb fun callable fewer hfewer =>
      limitOrDerives_call (ih fewer hfewer) callable
  | case2 name arguments hb tool ht =>
    rw [applyAt_tool hb ht]
    exact .of_derives (.tool hb ht)
  | case3 name arguments hb ht => exact huser name arguments hb ht

/-- User functions, by recursion on the levels that are left. -/
theorem limitOrDerives_apply {interp : Interpreter} {limit depth : Nat} (name : String)
    (arguments : List Value) :
    LimitOrDerives interp limit depth (.apply name arguments)
      (interp.applyAt limit depth name arguments) := by
  -- The levels that are left bound the height of what is derived.
  induction depth generalizing name arguments with
  | zero =>
    refine limitOrDerives_name (fun name arguments hb ht => ?_) name arguments
    cases hd : interp.definitions.get? name with
    | none =>
      rw [applyAt_undefined hb ht hd]
      exact .of_derives (.undefined hb ht hd)
    -- No level is left, so this is the one place where the limit is reported.
    | some clauses => exact .inl (applyAt_zero hb ht hd)
  | succ depth ih =>
    refine limitOrDerives_name (fun name arguments hb ht => ?_) name arguments
    cases hd : interp.definitions.get? name with
    | none =>
      rw [applyAt_undefined hb ht hd]
      exact .of_derives (.undefined hb ht hd)
    | some clauses =>
      cases hm : firstMatch? clauses arguments with
      | none =>
        rw [applyAt_unmatched hb ht hd hm]
        -- A refusal counts as a level, since the limit is looked at before the clauses.
        exact .inr ⟨1, by omega, .unmatched hb ht hd hm⟩
      | some selected =>
        rw [applyAt_matched hb ht hd hm]
        -- The body has a level less, so its derivation is one lower.
        rcases limitOrDerives_eval selected.2 ih selected.1 with h | ⟨height, hle, h⟩
        · exact .inl h
        · exact .inr ⟨height + 1, by omega, .matched hb ht hd hm h⟩

/-- A task reports the limit or follows a derivation within the levels that are left. -/
theorem limitOrDerives_task {interp : Interpreter} {limit depth : Nat} : (task : Task) →
    LimitOrDerives interp limit depth task (task.run interp (interp.applyAt limit depth))
  | .eval expr frame => limitOrDerives_eval frame limitOrDerives_apply expr
  | .evalAll exprs frame => limitOrDerives_evalAll frame limitOrDerives_apply exprs
  | .apply name arguments => limitOrDerives_apply name arguments
  | .call callable arguments =>
    limitOrDerives_call (fun name => limitOrDerives_apply name arguments) callable
  | .map callable items =>
    limitOrDerives_mapItems
      (fun item => limitOrDerives_call (fun name => limitOrDerives_apply name [item]) callable)
      items
  | .filter callable items =>
    limitOrDerives_filterItems
      (fun item => limitOrDerives_call (fun name => limitOrDerives_apply name [item]) callable)
      items
  | .fold callable start items =>
    limitOrDerives_foldItems
      (fun acc item =>
        limitOrDerives_call (fun name => limitOrDerives_apply name [acc, item]) callable)
      items start

end Clausal
