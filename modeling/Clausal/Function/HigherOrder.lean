import Clausal.Value.Basic

/-!
# Higher-order builtins

The builtin functions that call a function value on the elements of a list. They always call
back with fewer arguments than they are given themselves, and the type of the callback says
so; this is why builtins that are handed to builtins come to an end.
-/

namespace Clausal

/-- A builtin that calls back. -/
inductive HigherOrder where
  | map
  | filter
  | fold
  deriving DecidableEq, Repr

namespace HigherOrder

/-- The higher-order builtins. -/
def all : List HigherOrder :=
  [map, filter, fold]

/-- The name that a builtin is applied by. -/
def name : HigherOrder → String
  | map => "map"
  | filter => "filter"
  | fold => "fold"

/-- What a builtin does, in a few words. -/
def description : HigherOrder → String
  | map => "apply a function to every element"
  | filter => "keep elements the predicate accepts"
  | fold => "combine elements left to right from a start value"

/-- The number of arguments that a builtin takes. -/
def arity : HigherOrder → Nat
  | map | filter => 2
  | fold => 3

/-- The builtin of this name. -/
def ofName? (name : String) : Option HigherOrder :=
  all.find? fun builtin => builtin.name == name

/-! ## Execution -/

/-- The results of a function on each element, from left to right. -/
def mapItems (f : Value → Result) : List Value → Except Error (List Value)
  | [] => .ok []
  | item :: items => do
    let result ← f item
    let results ← mapItems f items
    return result :: results

/-- The elements on which a function yields something truthy, called from left to right. -/
def filterItems (f : Value → Result) : List Value → Except Error (List Value)
  | [] => .ok []
  | item :: items => do
    let verdict ← f item
    let kept ← filterItems f items
    return if verdict.isTruthy then item :: kept else kept

/-- The result of combining elements with a start value, from left to right. -/
def foldItems (f : Value → Value → Result) (start : Value) : List Value → Result
  | [] => .ok start
  | item :: items => do
    let next ← f start item
    foldItems f next items

/-- Runs a builtin: the function comes first and the list last, and `fold` has its start
value between them. `call` applies a function value to fewer arguments than there are. -/
def run (builtin : HigherOrder) (arguments : List Value)
    (call : Callable → (fewer : List Value) → fewer.length < arguments.length → Result) :
    Result :=
  match builtin, arguments, call with
  | map, [function, list], call => do
    let callable ← function.asCallable
    let items ← list.asList
    return .list (← mapItems (fun item => call callable [item] (by simp)) items)
  | filter, [function, list], call => do
    let callable ← function.asCallable
    let items ← list.asList
    return .list (← filterItems (fun item => call callable [item] (by simp)) items)
  | fold, [function, start, list], call => do
    let callable ← function.asCallable
    let items ← list.asList
    foldItems (fun acc item => call callable [acc, item] (by simp)) start items
  | builtin, arguments, _ =>
    .error (.arityMismatch builtin.name builtin.arity arguments.length)

end HigherOrder

end Clausal
