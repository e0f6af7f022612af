import Clausal.Function.HigherOrder
import Clausal.Function.Tool
import Clausal.Value.Operate
import Clausal.Value.Text

/-!
# Application

A name is applied to arguments as a higher-order builtin, as a tool or as a user function, in
this order. Function values are called through names or operators. Which tools there are and how
user functions are applied are parameters here.
-/

namespace Clausal

/-- A way to apply names to arguments. -/
abbrev Application := String → List Value → Result

/-- Calls a function value on arguments. `named` applies a name to these same arguments. An
operator takes two arguments, and an operator with one operand fixed takes one. -/
def Callable.callWith (callable : Callable) (arguments : List Value) (named : String → Result) :
    Result :=
  match callable, arguments with
  | .named name, _ => named name
  | .operator op, [first, second] => op.apply first second
  | .left operand op, [argument] => op.apply operand argument
  | .right op operand, [argument] => op.apply argument operand
  | .operator op, _ =>
    .error (.arityMismatch (Callable.operator op).text 2 arguments.length)
  | .left operand op, _ =>
    .error (.arityMismatch (Callable.left operand op).text 1 arguments.length)
  | .right op operand, _ =>
    .error (.arityMismatch (Callable.right op operand).text 1 arguments.length)

/-- Calls a function value on arguments, names being applied as given. -/
def Callable.call (apply : Application) (callable : Callable) (arguments : List Value) : Result :=
  callable.callWith arguments fun name => apply name arguments

/-- Applies a name, given the tools and how user functions are applied. Builtins and tools come
before user functions, and a builtin that calls back has its callbacks applied in the same way. -/
def applyName (registry : Registry) (user : Application) (name : String)
    (arguments : List Value) : Result :=
  match HigherOrder.ofName? name with
  | some builtin =>
    builtin.run arguments fun callable fewer _ =>
      callable.callWith fewer fun inner => applyName registry user inner fewer
  | none =>
    match registry.get? name with
    | some tool => tool.apply name arguments
    | none => user name arguments
termination_by arguments.length

end Clausal
