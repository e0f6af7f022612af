import Clausal.Value.Equality

/-!
# Operators on values

Arithmetic needs two numbers, comparison two numbers or two strings, equality takes any two
values, and `:` puts an element before a list. Where two operands are at fault, the left one
is reported.
-/

namespace Clausal.Operator

/-- An arithmetic operation on two numbers. -/
def arithmetic (operation : Float → Float → Float) (left right : Value) : Result := do
  let a ← left.asNumber
  let b ← right.asNumber
  return .number (operation a b)

/-- A comparison of two numbers or of two strings. Strings are compared character by
character, by code point. -/
def comparison (numbers : Float → Float → Bool) (strings : String → String → Bool) :
    Value → Value → Result
  | .number a, .number b => .ok (.bool (numbers a b))
  | .string a, .string b => .ok (.bool (strings a b))
  | .number _, other => .error (.typeMismatch "number" other.kind)
  | .string _, other => .error (.typeMismatch "string" other.kind)
  | other, _ => .error (.typeMismatch "number or string" other.kind)

/-- An element before a list. Before anything else it makes a list of two. -/
def construct (head : Value) : Value → Value
  | .list items => .list (head :: items)
  | other => .list [head, other]

/-- What an operator yields for two operands. -/
def apply : Operator → Value → Value → Result
  | add, left, right => arithmetic (· + ·) left right
  | sub, left, right => arithmetic (· - ·) left right
  | mul, left, right => arithmetic (· * ·) left right
  | div, left, right => arithmetic (· / ·) left right
  | lt, left, right => comparison (fun a b => a < b) (fun a b => a < b) left right
  | gt, left, right => comparison (fun a b => b < a) (fun a b => b < a) left right
  | le, left, right => comparison (fun a b => a ≤ b) (fun a b => !decide (b < a)) left right
  | ge, left, right => comparison (fun a b => b ≤ a) (fun a b => !decide (a < b)) left right
  | eq, left, right => .ok (.bool (left.equals right))
  | ne, left, right => .ok (.bool (!left.equals right))
  | cons, left, right => .ok (construct left right)

end Clausal.Operator
