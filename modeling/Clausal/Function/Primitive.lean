import Clausal.Function.Tool
import Clausal.Number.Binary64

/-!
# Primitive functions

The tools that an interpreter has unless it is given others: functions on lists, on numbers and on
truth values. A primitive is applied by its name to exactly as many arguments as it takes.
-/

namespace Clausal

/-- A primitive function. -/
inductive Primitive where
  | div
  | head
  | length
  | mod
  | not
  | null
  | reverse
  | sum
  | tail
  deriving DecidableEq, Repr

namespace Primitive

/-- The primitives in the order of their names. -/
def all : List Primitive :=
  [div, head, length, mod, not, null, reverse, sum, tail]

/-- The name that a primitive is applied by. -/
def name : Primitive → String
  | div => "div"
  | head => "head"
  | length => "length"
  | mod => "mod"
  | not => "not"
  | null => "null"
  | reverse => "reverse"
  | sum => "sum"
  | tail => "tail"

/-- What a primitive does, in a few words. -/
def description : Primitive → String
  | div => "Quotient of floored division"
  | head => "First element of a non-empty list"
  | length => "Number of elements in a list"
  | mod => "Remainder of floored division"
  | not => "Boolean negation"
  | null => "True for the empty list"
  | reverse => "Elements of a list in reverse order"
  | sum => "Sum of a list of numbers"
  | tail => "All elements after the first of a non-empty list"

/-- The number of arguments that a primitive takes. -/
def arity : Primitive → Nat
  | div | mod => 2
  | _ => 1

/-- The primitive of this name among the given ones. -/
def find? (available : List Primitive) (name : String) : Option Primitive :=
  available.find? fun primitive => primitive.name == name

/-! ## Execution -/

/-- The argument at a place, counted from zero. -/
def argument (primitive : Primitive) (arguments : List Value) (index : Nat) :
    Except Error Value :=
  match arguments[index]? with
  | some value => .ok value
  | none =>
    .error (.invalidArguments primitive.name ("missing argument " ++ toString (index + 1)))

/-- The first element and the rest of a list that has one. Anything else counts as empty. -/
def nonempty (primitive : Primitive) : Value → Except Error (Value × List Value)
  | .list (first :: rest) => .ok (first, rest)
  | _ => .error (.emptyList primitive.name)

/-- The two operands of a division. The divisor must not be zero of either sign. -/
def operands (primitive : Primitive) (arguments : List Value) : Except Error (Float × Float) := do
  let dividend ← (← primitive.argument arguments 0).asNumber
  let divisor ← (← primitive.argument arguments 1).asNumber
  if divisor == 0 then
    .error (.invalidArguments primitive.name "divisor must not be zero")
  else return (dividend, divisor)

/-- The sum of values that are all numbers, added from left to right. -/
def total (start : Float) : List Value → Except Error Float
  | [] => .ok start
  | item :: items => do total (start + (← item.asNumber)) items

/-- What a primitive yields. Arguments after the last one it needs are not looked at. -/
def execute (primitive : Primitive) (arguments : List Value) : Result :=
  match primitive with
  | div => do
    let (dividend, divisor) ← primitive.operands arguments
    return .number (Binary64.floor (dividend / divisor))
  | mod => do
    let (dividend, divisor) ← primitive.operands arguments
    return .number (dividend - divisor * Binary64.floor (dividend / divisor))
  | not => return .bool (!(← (← primitive.argument arguments 0).asBool))
  | head => return (← primitive.nonempty (← primitive.argument arguments 0)).1
  | tail => return .list (← primitive.nonempty (← primitive.argument arguments 0)).2
  | length => return .number (Float.ofNat (← (← primitive.argument arguments 0).asList).length)
  | null => return .bool (← (← primitive.argument arguments 0).asList).isEmpty
  | reverse => return .list (← (← primitive.argument arguments 0).asList).reverse
  | sum => return .number (← total 0 (← (← primitive.argument arguments 0).asList))

/-! ## Primitives as tools -/

/-- A primitive as a tool. -/
def tool (primitive : Primitive) : Tool where
  name := primitive.name
  description := primitive.description
  arity := some primitive.arity
  execute := primitive.execute

/-- The registry of the given primitives. -/
def registry (available : List Primitive) : Registry :=
  Registry.ofTools (available.map tool)

/-- Applies the primitive of a name, if it is among the given ones. -/
def call (available : List Primitive) (name : String) (arguments : List Value) : Result :=
  (registry available).call name arguments

theorem get?_registry (available : List Primitive) (name : String) :
    (registry available).get? name = (find? available name).map tool := by
  rw [registry, Registry.get?_ofTools, List.find?_map]
  rfl

end Primitive

/-- The registry of all primitives. -/
def Registry.standard : Registry :=
  Primitive.registry Primitive.all

/-- The standard tools are the primitives. -/
theorem Registry.exists_primitive_of_get?_standard {name : String} {tool : Tool}
    (h : standard.get? name = some tool) : ∃ primitive : Primitive, primitive.tool = tool := by
  rw [standard, Primitive.get?_registry] at h
  obtain ⟨primitive, -, same⟩ := Option.map_eq_some_iff.mp h
  exact ⟨primitive, same⟩

end Clausal
