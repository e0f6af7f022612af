import Clausal.Value.Basic

/-!
# Equality of values

Values of different kinds are never equal, numbers are equal as numbers, lists element by
element, and a function is equal to nothing, itself included.
-/

namespace Clausal.Value

mutual

/-- Whether two values are equal. -/
def equals : Value → Value → Bool
  | .number a, .number b => a == b
  | .bool a, .bool b => a == b
  | .string a, .string b => a == b
  | .list as, .list bs => equalsAll as bs
  | _, _ => false

/-- Whether two lists of values have the same length and equal elements. -/
def equalsAll : List Value → List Value → Bool
  | [], [] => true
  | a :: as, b :: bs => equals a b && equalsAll as bs
  | _, _ => false

end

end Clausal.Value
