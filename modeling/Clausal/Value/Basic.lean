import Clausal.Error
import Clausal.Operator

/-!
# Values

Numbers, truth values, strings, lists and functions. A function value is a name, an operator,
or an operator with one of its operands fixed; it carries no environment.
-/

namespace Clausal

mutual

/-- A value. -/
inductive Value where
  | number (value : Float)
  | bool (value : Bool)
  | string (text : String)
  | list (items : List Value)
  | function (callable : Callable)

/-- What a function value calls. -/
inductive Callable where
  /-- The builtin or user function of this name. -/
  | named (name : String)
  /-- An operator as a function of two arguments. -/
  | operator (op : Operator)
  /-- An operator whose left operand is fixed: `(operand op)`. -/
  | left (operand : Value) (op : Operator)
  /-- An operator whose right operand is fixed: `(op operand)`. -/
  | right (op : Operator) (operand : Value)

end

instance : Inhabited Value := ⟨.bool false⟩

/-- The result of an evaluation: a value or the error that stopped it. -/
abbrev Result := Except Error Value

namespace Value

/-- The word for the kind of a value. -/
def kind : Value → String
  | number _ => "number"
  | bool _ => "bool"
  | string _ => "string"
  | list _ => "list"
  | function _ => "function"

/-- A value as a condition: false, zero, the empty string and the empty list do not hold, and
everything else does. -/
def isTruthy : Value → Bool
  | number value => value != 0
  | bool value => value
  | string text => !text.isEmpty
  | list items => !items.isEmpty
  | function _ => true

/-! ## Views of one kind -/

/-- A value where a number is needed. -/
def asNumber : Value → Except Error Float
  | number value => .ok value
  | other => .error (.typeMismatch "number" other.kind)

/-- A value where a truth value is needed. -/
def asBool : Value → Except Error Bool
  | bool value => .ok value
  | other => .error (.typeMismatch "bool" other.kind)

/-- A value where a list is needed. -/
def asList : Value → Except Error (List Value)
  | list items => .ok items
  | other => .error (.typeMismatch "list" other.kind)

/-- A value where a function is needed. -/
def asCallable : Value → Except Error Callable
  | function callable => .ok callable
  | other => .error (.typeMismatch "function" other.kind)

end Value

end Clausal
