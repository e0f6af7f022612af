import Clausal.Proofs.Evaluation.Layers
import Mathlib.Order.Filter.AtTopBot.Basic

/-!
# Evaluation with a counter

`Interpreter.eval` reads off its recursion how many levels of user functions are left. A machine
has no such recursion to look at: it keeps one counter of the user functions in progress, raises
it when a function is entered and lowers it when the function is left, with a value or with an
error. This file gives evaluation in that form. The counter is state, an error does not undo
state, and every call from one layer into another takes one unit of fuel.

Main statements:
- `answer_terminates`: every request is answered with some amount of fuel, from any state of the
  counter, and the answer leaves the counter as it was.
- `settles_answers`: the answers to a sequence of requests on one counter are those of
  `Interpreter.answer`, each for itself.
-/

namespace Clausal

/-- A computation on the counter of user functions in progress. It yields nothing when it runs
out of fuel, and otherwise a value or an error together with the new count. -/
abbrev Counted (α : Type) : Type := ExceptT Error (StateT Nat Option) α

namespace Counted

variable {α β : Type}

/-- The computation that has run out of fuel. -/
def exhausted : Counted α :=
  ExceptT.mk fun _ => none

/-- A result that does not touch the counter. -/
def ofResult (result : Except Error α) : Counted α :=
  ExceptT.mk (pure result)

/-- What a computation yields from a count. -/
def runFrom (computation : Counted α) (depth : Nat) : Option (Except Error α × Nat) :=
  StateT.run computation.run depth

/-- Runs the body of a user function, if the limit allows one more. The counter is lowered
again whether the body succeeds or fails. -/
def entering (maxDepth : Nat) (body : Counted Value) : Counted Value := do
  let depth := (← get) + 1
  if depth > maxDepth then throw (.recursionLimit maxDepth)
  set depth
  let result ← liftM body.run
  set (depth - 1)
  ofResult result

theorem runFrom_bind_ok {computation : Counted α} {next : α → Counted β} {depth after : Nat}
    {value : α} (h : computation.runFrom depth = some (.ok value, after)) :
    (computation >>= next).runFrom depth = (next value).runFrom after := by
  -- Both layers of the monad are opened, the errors above and the counter below.
  simp only [runFrom, ExceptT.run_bind, StateT.run_bind] at h ⊢
  rw [h]
  rfl

theorem runFrom_bind_error {computation : Counted α} {next : α → Counted β} {depth after : Nat}
    {error : Error} (h : computation.runFrom depth = some (.error error, after)) :
    (computation >>= next).runFrom depth = some (.error error, after) := by
  simp only [runFrom, ExceptT.run_bind, StateT.run_bind] at h ⊢
  rw [h]
  rfl

theorem runFrom_entering {body : Counted Value} {result : Result} {depth maxDepth : Nat}
    (hdepth : depth < maxDepth) (h : body.runFrom (depth + 1) = some (result, depth + 1)) :
    (entering maxDepth body).runFrom depth = some (result, depth) := by
  have hget : (get : Counted Nat).runFrom depth = some (.ok depth, depth) := rfl
  have hset : (set (depth + 1) : Counted PUnit).runFrom depth = some (.ok ⟨⟩, depth + 1) := rfl
  -- The body runs one level up and gives the counter back as it found it.
  have hbody : (liftM body.run : Counted Result).runFrom (depth + 1) =
      some (.ok result, depth + 1) := by
    simp only [runFrom] at h ⊢
    rw [show (liftM body.run : Counted Result).run = Except.ok <$> body.run from rfl,
      StateT.run_map, h]
    rfl
  have hlimit : ¬ depth + 1 > maxDepth := by omega
  -- Read the counter, raise it, run the body, and lower it again
  unfold entering
  rw [runFrom_bind_ok hget]
  simp only [hlimit, ↓reduceIte]
  rw [runFrom_bind_ok hset, runFrom_bind_ok hbody]
  rfl

theorem runFrom_entering_limit {body : Counted Value} {depth maxDepth : Nat}
    (hdepth : maxDepth ≤ depth) :
    (entering maxDepth body).runFrom depth =
      some (.error (.recursionLimit maxDepth), depth) := by
  have hget : (get : Counted Nat).runFrom depth = some (.ok depth, depth) := rfl
  have hlimit : depth + 1 > maxDepth := by omega
  unfold entering
  rw [runFrom_bind_ok hget]
  simp only [hlimit, ↓reduceIte]
  rfl

end Counted

/-! ## The evaluator -/

namespace HigherOrder

/-- `filterItems` with a counter. -/
def filterCounted (f : Value → Counted Value) : List Value → Counted (List Value)
  | [] => pure []
  | item :: items => do
    let verdict ← f item
    let kept ← filterCounted f items
    return if verdict.isTruthy then item :: kept else kept

/-- Runs a builtin with callbacks that count. Nothing here counts by itself. -/
def runCounted (call : Callable → List Value → Counted Value) :
    HigherOrder → List Value → Counted Value
  | map, [function, list] => do
    let callable ← Counted.ofResult function.asCallable
    let items ← Counted.ofResult list.asList
    return .list (← items.mapM fun item => call callable [item])
  | filter, [function, list] => do
    let callable ← Counted.ofResult function.asCallable
    let items ← Counted.ofResult list.asList
    return .list (← filterCounted (fun item => call callable [item]) items)
  | fold, [function, start, list] => do
    let callable ← Counted.ofResult function.asCallable
    let items ← Counted.ofResult list.asList
    items.foldlM (fun acc item => call callable [acc, item]) start
  | builtin, arguments =>
    throw (.arityMismatch builtin.name builtin.arity arguments.length)

theorem runCounted_of_length_ne {builtin : HigherOrder} {arguments : List Value}
    (call : Callable → List Value → Counted Value) (h : arguments.length ≠ builtin.arity) :
    builtin.runCounted call arguments =
      throw (.arityMismatch builtin.name builtin.arity arguments.length) := by
  -- The same case split as for the builtins without a counter.
  unfold runCounted
  split
  · exact absurd rfl h
  · exact absurd rfl h
  · exact absurd rfl h
  · rfl

end HigherOrder

namespace Interpreter

mutual

/-- Evaluates an expression with a counter. -/
def evalCounted (interp : Interpreter) : Nat → Expr → Bindings → Counted Value
  | 0, _, _ => Counted.exhausted
  | fuel + 1, expr, frame =>
    match expr with
    | .number value => return .number value
    | .string text => return .string text
    | .bool value => return .bool value
    | .list items => return .list (← items.mapM fun item => interp.evalCounted fuel item frame)
    | .variable name => Counted.ofResult ((interp.scope frame).lookup name)
    | .binary op left right => do
      let leftValue ← interp.evalCounted fuel left frame
      let rightValue ← interp.evalCounted fuel right frame
      Counted.ofResult (op.apply leftValue rightValue)
    | .application name arguments => do
      let values ← arguments.mapM fun argument => interp.evalCounted fuel argument frame
      match (interp.scope frame).value? name with
      | some (.function callable) => interp.callCounted fuel callable values
      | some other => throw (.typeMismatch "function" other.kind)
      | none => interp.applyCounted fuel name values
    | .bareSection op => return .function (.operator op)
    | .leftSection operand op =>
      return .function (.left (← interp.evalCounted fuel operand frame) op)
    | .rightSection op operand =>
      return .function (.right op (← interp.evalCounted fuel operand frame))
termination_by structural fuel => fuel

/-- Applies a name with a counter. Only a user function is counted, and it is counted before
its clauses are tried. -/
def applyCounted (interp : Interpreter) : Nat → String → List Value → Counted Value
  | 0, _, _ => Counted.exhausted
  | fuel + 1, name, arguments =>
    match HigherOrder.ofName? name with
    | some builtin =>
      builtin.runCounted (fun callable fewer => interp.callCounted fuel callable fewer) arguments
    | none =>
      match interp.registry.get? name with
      | some tool => Counted.ofResult (tool.apply name arguments)
      | none =>
        match interp.definitions.get? name with
        | none => throw (.undefinedFunction name)
        | some clauses =>
          Counted.entering interp.maxDepth <|
            match firstMatch? clauses arguments with
            | none => throw (.noClauseMatched name (arguments.map Value.text))
            | some (body, bindings) => interp.evalCounted fuel body bindings
termination_by structural fuel => fuel

/-- Calls a function value with a counter. -/
def callCounted (interp : Interpreter) : Nat → Callable → List Value → Counted Value
  | 0, _, _ => Counted.exhausted
  | fuel + 1, callable, arguments =>
    match callable with
    | .named name => interp.applyCounted fuel name arguments
    | .operator op =>
      match arguments with
      | [first, second] => Counted.ofResult (op.apply first second)
      | _ => throw (.arityMismatch callable.text 2 arguments.length)
    | .left operand op =>
      match arguments with
      | [argument] => Counted.ofResult (op.apply operand argument)
      | _ => throw (.arityMismatch callable.text 1 arguments.length)
    | .right op operand =>
      match arguments with
      | [argument] => Counted.ofResult (op.apply argument operand)
      | _ => throw (.arityMismatch callable.text 1 arguments.length)
termination_by structural fuel => fuel

end

/-- Answers a request with a counter. -/
def answerCounted (interp : Interpreter) (fuel : Nat) : Request → Counted Value
  | .evaluate text => do
    let expr ← Counted.ofResult (Expr.parse text)
    interp.evalCounted fuel expr Names.empty
  | .eval expr frame => interp.evalCounted fuel expr frame
  | .apply name arguments => interp.applyCounted fuel name arguments
  | .call callable arguments => interp.callCounted fuel callable arguments

/-- Answers requests one after the other on the same counter. The answer to a request may be an
error, and the next request starts from the count that it left. -/
def answersCounted (interp : Interpreter) (fuel : Nat) (requests : List Request) :
    StateT Nat Option (List Result) :=
  requests.mapM fun request => (interp.answerCounted fuel request).run

end Interpreter

/-! ## Settling -/

namespace Counted

variable {α β : Type} {interp : Interpreter} {depth : Nat}

/-- With enough fuel, the computation has this result and leaves the counter as it was. -/
def Settles (computation : Nat → Counted α) (depth : Nat) (result : Except Error α) : Prop :=
  ∀ᶠ fuel in Filter.atTop, (computation fuel).runFrom depth = some (result, depth)

theorem settles_ofResult (result : Except Error α) (depth : Nat) :
    Settles (fun _ => ofResult result) depth result :=
  Filter.Eventually.of_forall fun _ => rfl

theorem settles_pure (value : α) (depth : Nat) :
    Settles (fun _ => pure value) depth (.ok value) :=
  settles_ofResult (.ok value) depth

theorem settles_throw (error : Error) (depth : Nat) :
    Settles (fun _ => (throw error : Counted α)) depth (.error error) :=
  settles_ofResult (.error error) depth

theorem Settles.bind {computation : Nat → Counted α} {next : Nat → α → Counted β}
    {result : Except Error α} {nextResult : α → Except Error β}
    (h : Settles computation depth result)
    (hnext : ∀ value, Settles (fun fuel => next fuel value) depth (nextResult value)) :
    Settles (fun fuel => computation fuel >>= next fuel) depth (result >>= nextResult) := by
  -- The result of the first step is known in advance, so the case split is outside the fuel.
  cases result with
  | error error =>
    filter_upwards [h] with fuel hfuel
    exact runFrom_bind_error hfuel
  | ok value =>
    -- Fuel that is enough for both steps is enough for the sequence.
    filter_upwards [h, hnext value] with fuel hfuel hvalue
    exact (runFrom_bind_ok hfuel).trans hvalue

/-- One unit of fuel more or less makes no difference in the end. -/
theorem Settles.succ {computation : Nat → Counted α} {result : Except Error α}
    (h : Settles (fun fuel => computation (fuel + 1)) depth result) :
    Settles computation depth result := by
  -- What holds from some fuel on holds from one unit later on, and conversely.
  rw [Settles, ← Filter.map_add_atTop_eq_nat 1, Filter.eventually_map]
  exact h

theorem Settles.entering {body : Nat → Counted Value} {result : Result} {maxDepth : Nat}
    (h : Settles body (depth + 1) result) (hdepth : depth < maxDepth) :
    Settles (fun fuel => Counted.entering maxDepth (body fuel)) depth result := by
  filter_upwards [h] with fuel hbody
  exact runFrom_entering hdepth hbody

/-! ## Callbacks -/

section Callbacks

open HigherOrder

theorem settles_mapItems {f : Nat → Value → Counted Value} {g : Value → Result}
    (h : ∀ item, Settles (fun fuel => f fuel item) depth (g item)) :
    (items : List Value) → Settles (fun fuel => items.mapM (f fuel)) depth (mapItems g items)
  | [] => by
    simp only [List.mapM_nil]
    exact settles_pure [] depth
  | item :: items => by
    simp only [List.mapM_cons]
    refine (h item).bind fun result => ?_
    refine (settles_mapItems h items).bind fun results => ?_
    exact settles_pure (result :: results) depth

theorem settles_filterItems {f : Nat → Value → Counted Value} {g : Value → Result}
    (h : ∀ item, Settles (fun fuel => f fuel item) depth (g item)) :
    (items : List Value) →
      Settles (fun fuel => filterCounted (f fuel) items) depth (filterItems g items)
  | [] => settles_pure [] depth
  | item :: items => by
    refine (h item).bind fun verdict => ?_
    refine (settles_filterItems h items).bind fun kept => ?_
    exact settles_pure (if verdict.isTruthy then item :: kept else kept) depth

theorem settles_foldItems {f : Nat → Value → Value → Counted Value}
    {g : Value → Value → Result}
    (h : ∀ acc item, Settles (fun fuel => f fuel acc item) depth (g acc item)) :
    (items : List Value) → (start : Value) →
      Settles (fun fuel => items.foldlM (f fuel) start) depth (foldItems g start items)
  | [], start => settles_pure start depth
  | item :: items, start => by
    simp only [List.foldlM_cons]
    exact (h start item).bind fun next => settles_foldItems h items next

/-- A builtin settles if its callbacks do, and these have fewer arguments than the builtin. -/
theorem settles_run {call : Nat → Callable → List Value → Counted Value}
    {callResult : Callable → List Value → Result} {arguments : List Value}
    (h : ∀ callable fewer, fewer.length < arguments.length →
      Settles (fun fuel => call fuel callable fewer) depth (callResult callable fewer))
    (builtin : HigherOrder) :
    Settles (fun fuel => builtin.runCounted (call fuel) arguments) depth
      (builtin.run arguments fun callable fewer _ => callResult callable fewer) := by
  by_cases harity : arguments.length = builtin.arity
  · obtain ⟨rfl, function, list, rfl⟩ | ⟨rfl, function, list, rfl⟩ |
      ⟨rfl, function, start, list, rfl⟩ := exists_arguments harity
    · refine (settles_ofResult function.asCallable depth).bind fun callable => ?_
      refine (settles_ofResult list.asList depth).bind fun items => ?_
      -- Callbacks have one argument here, where the builtin has two.
      have hitem (item : Value) := h callable [item] (by simp)
      exact (settles_mapItems hitem items).bind fun results =>
        settles_pure (Value.list results) depth
    · refine (settles_ofResult function.asCallable depth).bind fun callable => ?_
      refine (settles_ofResult list.asList depth).bind fun items => ?_
      have hitem (item : Value) := h callable [item] (by simp)
      exact (settles_filterItems hitem items).bind fun kept => settles_pure (Value.list kept) depth
    · refine (settles_ofResult function.asCallable depth).bind fun callable => ?_
      refine (settles_ofResult list.asList depth).bind fun items => ?_
      have hitem (acc item : Value) := h callable [acc, item] (by simp)
      exact settles_foldItems hitem items start
  · rw [run_of_length_ne _ harity]
    simp only [runCounted_of_length_ne _ harity]
    exact settles_throw _ depth

end Callbacks

/-! ## Expressions and names -/

theorem settles_call {apply : Application} {arguments : List Value}
    (h : ∀ name, Settles (fun fuel => interp.applyCounted fuel name arguments) depth
      (apply name arguments))
    (callable : Callable) :
    Settles (fun fuel => interp.callCounted fuel callable arguments) depth
      (callable.call apply arguments) := by
  refine Settles.succ ?_
  unfold Callable.call
  -- The first four cases apply something, and the others report the number of arguments.
  fun_cases Callable.callWith callable arguments fun name => apply name arguments
  case case1 name => exact h name
  case case2 op first second => exact settles_ofResult (op.apply first second) depth
  case case3 operand op argument => exact settles_ofResult (op.apply operand argument) depth
  case case4 op operand argument => exact settles_ofResult (op.apply argument operand) depth
  case case5 op hne =>
    simp only [Interpreter.callCounted]
    exact settles_throw _ depth
  case case6 operand op hne =>
    simp only [Interpreter.callCounted]
    exact settles_throw _ depth
  case case7 op operand hne =>
    simp only [Interpreter.callCounted]
    exact settles_throw _ depth

mutual

/-- An expression settles if names do, by recursion on the expression. -/
theorem settles_eval {apply : Application} {frame : Bindings}
    (h : ∀ name arguments, Settles (fun fuel => interp.applyCounted fuel name arguments) depth
      (apply name arguments)) :
    (expr : Expr) → Settles (fun fuel => interp.evalCounted fuel expr frame) depth
      (expr.evalIn (interp.scope frame) apply)
  | .number value => (settles_pure (Value.number value) depth).succ
  | .string text => (settles_pure (Value.string text) depth).succ
  | .bool value => (settles_pure (Value.bool value) depth).succ
  | .list items => by
    refine Settles.succ ?_
    exact (settles_evalAll h items).bind fun values => settles_pure (Value.list values) depth
  | .variable name =>
    Settles.succ (settles_ofResult ((interp.scope frame).lookup name) depth)
  | .binary op left right => by
    refine Settles.succ ?_
    refine (settles_eval h left).bind fun leftValue => ?_
    refine (settles_eval h right).bind fun rightValue => ?_
    exact settles_ofResult (op.apply leftValue rightValue) depth
  | .application name arguments => by
    refine Settles.succ ?_
    refine (settles_evalAll h arguments).bind fun values => ?_
    -- The counted evaluator looks at the head itself, in the same order.
    unfold Scope.applyHead
    cases (interp.scope frame).value? name with
    | none => exact h name values
    | some value =>
      -- The value of a name comes before the function of that name.
      cases value with
      | function callable => exact settles_call (fun inner => h inner values) callable
      | _ => exact settles_throw _ depth
  | .bareSection op => (settles_pure (Value.function (.operator op)) depth).succ
  | .leftSection operand op => by
    refine Settles.succ ?_
    exact (settles_eval h operand).bind fun value =>
      settles_pure (Value.function (.left value op)) depth
  | .rightSection op operand => by
    refine Settles.succ ?_
    exact (settles_eval h operand).bind fun value =>
      settles_pure (Value.function (.right op value)) depth

theorem settles_evalAll {apply : Application} {frame : Bindings}
    (h : ∀ name arguments, Settles (fun fuel => interp.applyCounted fuel name arguments) depth
      (apply name arguments)) :
    (exprs : List Expr) →
      Settles (fun fuel => exprs.mapM fun expr => interp.evalCounted fuel expr frame) depth
        (Expr.evalAllIn (interp.scope frame) apply exprs)
  | [] => by
    simp only [List.mapM_nil]
    exact settles_pure [] depth
  | expr :: exprs => by
    simp only [List.mapM_cons]
    refine (settles_eval h expr).bind fun value => ?_
    refine (settles_evalAll h exprs).bind fun values => ?_
    exact settles_pure (value :: values) depth

end

/-- A name settles if user functions do, by recursion on the number of arguments: a builtin
that calls back does so with fewer of them. -/
theorem settles_applyName {user : Application}
    (huser : ∀ name arguments, HigherOrder.ofName? name = none →
      interp.registry.get? name = none →
      Settles (fun fuel => interp.applyCounted fuel name arguments) depth (user name arguments))
    (name : String) (arguments : List Value) :
    Settles (fun fuel => interp.applyCounted fuel name arguments) depth
      (applyName interp.registry user name arguments) := by
  -- The recursion of `applyName`, whose hypothesis covers the callbacks.
  induction name, arguments using applyName.induct interp.registry with
  | case1 name arguments builtin hb ih =>
    rw [applyName_higherOrder hb]
    refine Settles.succ ?_
    simp only [Interpreter.applyCounted, hb]
    refine settles_run (fun callable fewer hfewer => ?_) builtin
    exact settles_call (ih fewer hfewer) callable
  | case2 name arguments hb tool ht =>
    rw [applyName_tool hb ht]
    refine Settles.succ ?_
    simp only [Interpreter.applyCounted, hb, ht]
    exact settles_ofResult (tool.apply name arguments) depth
  | case3 name arguments hb ht =>
    rw [applyName_user hb ht]
    exact huser name arguments hb ht

/-- Every name settles, by recursion on the levels of user functions that the counter leaves. -/
theorem settles_apply {remaining : Nat} (hremaining : interp.maxDepth - depth = remaining)
    (name : String) (arguments : List Value) :
    Settles (fun fuel => interp.applyCounted fuel name arguments) depth
      (applyName interp.registry (interp.applyUser remaining) name arguments) := by
  -- The count goes up where the remaining levels go down, so both vary.
  induction remaining generalizing depth name arguments with
  | zero =>
    -- No level is left: a stored function reports the limit before its clauses are tried.
    refine settles_applyName (fun name arguments hb ht => ?_) name arguments
    refine Settles.succ ?_
    simp only [Interpreter.applyCounted, hb, ht]
    cases hd : interp.definitions.get? name with
    | none =>
      rw [interp.applyUser_undefined hd]
      exact settles_throw _ depth
    | some clauses =>
      rw [interp.applyUser_zero hd]
      exact Filter.Eventually.of_forall fun fuel => runFrom_entering_limit (by omega)
  | succ remaining ih =>
    refine settles_applyName (fun name arguments hb ht => ?_) name arguments
    refine Settles.succ ?_
    simp only [Interpreter.applyCounted, hb, ht]
    cases hd : interp.definitions.get? name with
    | none =>
      rw [interp.applyUser_undefined hd]
      exact settles_throw _ depth
    | some clauses =>
      -- A level is left, so the body is entered.
      refine Settles.entering ?_ (by omega)
      cases hm : firstMatch? clauses arguments with
      | none =>
        rw [interp.applyUser_unmatched hd hm]
        exact settles_throw _ (depth + 1)
      | some selected =>
        rw [interp.applyUser_matched hd hm]
        -- The body runs with the counter raised, so it has one level less.
        exact settles_eval (ih (by omega)) selected.1

/-! ## Requests -/

/-- Every request settles, on the answer that the remaining levels give. -/
theorem settles_answer (interp : Interpreter) (depth : Nat) (request : Request) :
    Settles (fun fuel => interp.answerCounted fuel request) depth
      (request.answerWith interp.scope
        (applyName interp.registry (interp.applyUser (interp.maxDepth - depth)))) := by
  -- From this count on, as many levels are left as the limit exceeds it by.
  have h (name : String) (arguments : List Value) :=
    settles_apply (rfl : interp.maxDepth - depth = interp.maxDepth - depth) name arguments
  cases request with
  | evaluate text =>
    exact (settles_ofResult (Expr.parse text) depth).bind fun expr => settles_eval h expr
  | eval expr frame => exact settles_eval h expr
  | apply name arguments => exact h name arguments
  | call callable arguments => exact settles_call (fun name => h name arguments) callable

/-- Requests on one counter are answered as if each were the only one: whatever an answer was,
the next request starts from zero again. -/
theorem settles_answers (interp : Interpreter) (requests : List Request) :
    ∀ᶠ fuel in Filter.atTop,
      (interp.answersCounted fuel requests).run 0 = some (requests.map interp.answer, 0) := by
  unfold Interpreter.answersCounted
  induction requests with
  | nil => exact Filter.Eventually.of_forall fun fuel => rfl
  | cons request requests ih =>
    -- The first request leaves the counter at zero, where the others start.
    filter_upwards [settles_answer interp 0 request, ih] with fuel hfirst hrest
    rw [Nat.sub_zero, ← interp.answer_eq_answerWith] at hfirst
    simp only [runFrom] at hfirst
    rw [List.mapM_cons, StateT.run_bind, hfirst]
    simp only [Option.bind_eq_bind, Option.bind_some, StateT.run_bind, hrest]
    rfl

end Counted

/-- Evaluation ends for every interpreter, every request and every state of the counter: from
some amount of fuel on, it yields a value or an error and leaves the counter as it was. From
zero, the result is the interpreter's answer. -/
theorem answer_terminates (interp : Interpreter) (request : Request) (depth : Nat) :
    ∃ (result : Result) (enough : Nat),
      (∀ fuel, enough ≤ fuel →
        (interp.answerCounted fuel request).runFrom depth = some (result, depth)) ∧
      (depth = 0 → result = interp.answer request) := by
  obtain ⟨enough, henough⟩ :=
    Filter.eventually_atTop.1 (Counted.settles_answer interp depth request)
  refine ⟨_, enough, henough, ?_⟩
  -- From zero, the whole limit is left, which is what the interpreter starts with.
  rintro rfl
  rw [Nat.sub_zero, interp.answer_eq_answerWith]

end Clausal
