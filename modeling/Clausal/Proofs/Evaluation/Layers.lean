import Clausal.Interpreter.Eval
import Mathlib.Data.List.Basic

/-!
# The layers of evaluation

Evaluation has three layers: expressions, names with the builtins, and user functions. This
file gives each way through a layer an equation of its own, so that nobody has to unfold the
evaluator, says how steps that may fail follow one another and what constants evaluate to, and puts
the four ways to use an interpreter under one type of requests.
-/

namespace Clausal

/-! ## Sequences of steps -/

section Sequencing

variable {α β : Type} {error : Error}

/-- A sequence goes on with the value of its first step. -/
theorem bind_of_eq_ok {first : Except Error α} {next : α → Except Error β} {value : α}
    (h : first = .ok value) : (first >>= next) = next value := by
  rw [h]
  rfl

/-- A sequence stops at the error of its first step. -/
theorem bind_of_eq_error {first : Except Error α} {next : α → Except Error β}
    (h : first = .error error) : (first >>= next) = .error error := by
  rw [h]
  rfl

/-- A sequence succeeds exactly if both of its steps do. -/
theorem bind_eq_ok_iff {first : Except Error α} {next : α → Except Error β} {result : β} :
    (first >>= next) = .ok result ↔ ∃ value, first = .ok value ∧ next value = .ok result := by
  cases first with
  | error error => simp [bind, Except.bind]
  | ok value => simp [bind, Except.bind]

theorem map_list_eq_ok_iff {result : Except Error (List Value)} {value : Value} :
    result.map Value.list = .ok value ↔ ∃ values, result = .ok values ∧ value = .list values := by
  cases result <;> simp [Except.map, eq_comm]

theorem map_list_eq_ok {result : Except Error (List Value)} {values : List Value} :
    result.map Value.list = .ok (.list values) ↔ result = .ok values := by
  cases result <;> simp [Except.map]

theorem map_list_eq_error {result : Except Error (List Value)} :
    result.map Value.list = .error error ↔ result = .error error := by
  cases result <;> simp [Except.map]

theorem map_list_bind {first : Except Error α} {next : α → Except Error (List Value)} :
    (first >>= next).map Value.list = first >>= fun value => (next value).map Value.list := by
  cases first <;> rfl

end Sequencing

/-! ## Higher-order builtins -/

namespace HigherOrder

theorem run_of_length_ne {builtin : HigherOrder} {arguments : List Value}
    (call : Callable → (fewer : List Value) → fewer.length < arguments.length → Result)
    (h : arguments.length ≠ builtin.arity) :
    builtin.run arguments call =
      .error (.arityMismatch builtin.name builtin.arity arguments.length) := by
  -- The first three cases of the definition are those with as many arguments as the arity.
  unfold run
  split
  · exact absurd rfl h
  · exact absurd rfl h
  · exact absurd rfl h
  · rfl

/-- The arguments of a builtin that is given as many as it takes. -/
theorem exists_arguments {builtin : HigherOrder} {arguments : List Value}
    (h : arguments.length = builtin.arity) :
    (builtin = map ∧ ∃ function list, arguments = [function, list]) ∨
    (builtin = filter ∧ ∃ function list, arguments = [function, list]) ∨
    (builtin = fold ∧ ∃ function start list, arguments = [function, start, list]) := by
  cases builtin with
  | map => exact .inl ⟨rfl, List.length_eq_two.1 h⟩
  | filter => exact .inr (.inl ⟨rfl, List.length_eq_two.1 h⟩)
  | fold => exact .inr (.inr ⟨rfl, List.length_eq_three.1 h⟩)

section Run

variable {builtin : HigherOrder} {arguments : List Value} {function start list : Value}
  {callable : Callable} {items : List Value} {error : Error}

/-- The function comes first, and it is looked at first. -/
theorem run_of_asCallable_eq_error
    (call : Callable → (fewer : List Value) → fewer.length < arguments.length → Result)
    (h : arguments.length = builtin.arity) (hhead : arguments.head? = some function)
    (hf : function.asCallable = .error error) :
    builtin.run arguments call = .error error := by
  obtain ⟨rfl, f, l, rfl⟩ | ⟨rfl, f, l, rfl⟩ | ⟨rfl, f, s, l, rfl⟩ := exists_arguments h
  all_goals
    obtain rfl : f = function := by simpa using hhead
    simp only [run, hf]
    rfl

/-- The list comes last, and it is looked at after the function. -/
theorem run_of_asList_eq_error
    (call : Callable → (fewer : List Value) → fewer.length < arguments.length → Result)
    (h : arguments.length = builtin.arity) (hhead : arguments.head? = some function)
    (hf : function.asCallable = .ok callable) (hlast : arguments.getLast? = some list)
    (hl : list.asList = .error error) :
    builtin.run arguments call = .error error := by
  obtain ⟨rfl, f, l, rfl⟩ | ⟨rfl, f, l, rfl⟩ | ⟨rfl, f, s, l, rfl⟩ := exists_arguments h
  all_goals
    obtain rfl : f = function := by simpa using hhead
    obtain rfl : l = list := by simpa using hlast
    simp only [run, hf, hl]
    rfl

theorem run_map (call : Callable → List Value → Result)
    (hf : function.asCallable = .ok callable) (hl : list.asList = .ok items) :
    map.run [function, list] (fun callable fewer _ => call callable fewer) =
      (mapItems (fun item => call callable [item]) items).map .list := by
  simp only [run, hf, hl]
  rfl

theorem run_filter (call : Callable → List Value → Result)
    (hf : function.asCallable = .ok callable) (hl : list.asList = .ok items) :
    filter.run [function, list] (fun callable fewer _ => call callable fewer) =
      (filterItems (fun item => call callable [item]) items).map .list := by
  simp only [run, hf, hl]
  rfl

theorem run_fold (call : Callable → List Value → Result)
    (hf : function.asCallable = .ok callable) (hl : list.asList = .ok items) :
    fold.run [function, start, list] (fun callable fewer _ => call callable fewer) =
      foldItems (fun acc item => call callable [acc, item]) start items := by
  simp only [run, hf, hl]
  rfl

end Run

end HigherOrder

/-! ## Function values -/

namespace Callable

variable {apply : Application} {arguments : List Value} {op : Operator} {operand : Value}

theorem call_operator_of_length_ne (h : arguments.length ≠ 2) :
    (operator op).call apply arguments =
      .error (.arityMismatch (operator op).text 2 arguments.length) := by
  -- The catch-all case of the definition, one length of the arguments at a time.
  match arguments, h with
  | [], _ => rfl
  | [_], _ => rfl
  | _ :: _ :: _ :: _, _ => rfl

theorem call_left_of_length_ne (h : arguments.length ≠ 1) :
    (left operand op).call apply arguments =
      .error (.arityMismatch (left operand op).text 1 arguments.length) := by
  match arguments, h with
  | [], _ => rfl
  | _ :: _ :: _, _ => rfl

theorem call_right_of_length_ne (h : arguments.length ≠ 1) :
    (right op operand).call apply arguments =
      .error (.arityMismatch (right op operand).text 1 arguments.length) := by
  match arguments, h with
  | [], _ => rfl
  | _ :: _ :: _, _ => rfl

end Callable

/-! ## Names -/

section Names

variable {registry : Registry} {user : Application} {name : String} {arguments : List Value}

theorem applyName_higherOrder {builtin : HigherOrder}
    (hb : HigherOrder.ofName? name = some builtin) :
    applyName registry user name arguments =
      builtin.run arguments fun callable fewer _ =>
        callable.call (applyName registry user) fewer := by
  rw [applyName, hb]
  rfl

theorem applyName_tool {tool : Tool} (hb : HigherOrder.ofName? name = none)
    (ht : registry.get? name = some tool) :
    applyName registry user name arguments = tool.apply name arguments := by
  rw [applyName, hb, ht]

theorem applyName_user (hb : HigherOrder.ofName? name = none)
    (ht : registry.get? name = none) :
    applyName registry user name arguments = user name arguments := by
  rw [applyName, hb, ht]

end Names

/-! ## User functions -/

namespace Interpreter

variable (interp : Interpreter) {name : String} {arguments : List Value} {clauses : List Clause}

theorem applyUser_undefined (hd : interp.definitions.get? name = none) (depth : Nat) :
    interp.applyUser depth name arguments = .error (.undefinedFunction name) := by
  -- A name without clauses is reported before the depth is looked at.
  rw [applyUser, hd]

theorem applyUser_zero (hd : interp.definitions.get? name = some clauses) :
    interp.applyUser 0 name arguments = .error (.recursionLimit interp.maxDepth) := by
  rw [applyUser, hd]

theorem applyUser_unmatched (hd : interp.definitions.get? name = some clauses)
    (hm : firstMatch? clauses arguments = none) (depth : Nat) :
    interp.applyUser (depth + 1) name arguments =
      .error (.noClauseMatched name (arguments.map Value.text)) := by
  rw [applyUser, hd]
  simp only [hm]

theorem applyUser_matched {body : Expr} {bindings : Bindings}
    (hd : interp.definitions.get? name = some clauses)
    (hm : firstMatch? clauses arguments = some (body, bindings)) (depth : Nat) :
    interp.applyUser (depth + 1) name arguments =
      body.evalIn (interp.scope bindings)
        (applyName interp.registry (interp.applyUser depth)) := by
  rw [applyUser, hd]
  simp only [hm]

/-- After a function is given clauses, it has these, and every other function has those it had. -/
theorem get?_defineFunction (function : String) (clauses : List Clause) (name : String) :
    (interp.defineFunction function clauses).definitions.get? name =
      if name = function then some clauses else interp.definitions.get? name :=
  Names.get?_insert ..

end Interpreter

/-- A name is no function exactly if it is neither that of a builtin or a tool nor that of a user
function. -/
theorem Interpreter.isFunction_eq_false_iff {interp : Interpreter} {name : String} :
    interp.isFunction name = false ↔ HigherOrder.ofName? name = none ∧
      interp.registry.get? name = none ∧ interp.definitions.get? name = none := by
  simp [isFunction, Names.contains, and_assoc]

/-! ## Constants -/

namespace Expr

variable {scope : Scope} {apply : Application}

mutual

/-- A constant evaluates to its value, whatever the names stand for. -/
theorem evalIn_of_constant? {expr : Expr} {value : Value}
    (h : expr.constant? = some value) : expr.evalIn scope apply = .ok value := by
  -- Only literals and lists of constants are constants, and they contain no name.
  cases expr with
  | number | string | bool =>
    rw [constant?, Option.some.injEq] at h
    rw [evalIn, h]
  | list items =>
    obtain ⟨values, hvalues, rfl⟩ := Option.map_eq_some_iff.mp h
    rw [evalIn, evalAllIn_of_constants? hvalues]
    rfl
  | _ => contradiction

/-- Constants evaluate to their values. -/
theorem evalAllIn_of_constants? {exprs : List Expr} {values : List Value}
    (h : constants? exprs = some values) :
    evalAllIn scope apply exprs = .ok values := by
  cases exprs with
  | nil =>
    obtain rfl := Option.some.inj h
    rfl
  | cons expr exprs =>
    obtain ⟨value, others, hvalue, hothers, rfl⟩ := constants?_cons_eq_some_iff.mp h
    rw [evalAllIn, evalIn_of_constant? hvalue, evalAllIn_of_constants? hothers]
    rfl

end

end Expr

/-! ## Requests -/

/-- One use of an interpreter. -/
inductive Request where
  /-- To read a text and evaluate it against the top-level state. -/
  | evaluate (text : String)
  /-- To evaluate an expression under the bindings of a clause. -/
  | eval (expr : Expr) (frame : Bindings)
  /-- To apply a name. -/
  | apply (name : String) (arguments : List Value)
  /-- To call a function value. -/
  | call (callable : Callable) (arguments : List Value)

/-- What an interpreter answers to a request. -/
def Interpreter.answer (interp : Interpreter) : Request → Result
  | .evaluate text => interp.evaluate text
  | .eval expr frame => interp.eval expr frame
  | .apply name arguments => interp.apply name arguments
  | .call callable arguments => interp.call callable arguments

/-- The answer to a request when names are applied as given. -/
def Request.answerWith (scope : Bindings → Scope) (apply : Application) : Request → Result
  | .evaluate text => do (← Expr.parse text).evalIn (scope Names.empty) apply
  | .eval expr frame => expr.evalIn (scope frame) apply
  | .apply name arguments => apply name arguments
  | .call callable arguments => callable.call apply arguments

theorem Interpreter.answer_eq_answerWith (interp : Interpreter) (request : Request) :
    interp.answer request =
      request.answerWith interp.scope
        (applyName interp.registry (interp.applyUser interp.maxDepth)) := by
  cases request <;> rfl

end Clausal
