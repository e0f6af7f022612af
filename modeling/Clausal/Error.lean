/-!
# Errors

What can go wrong when a text is read or evaluated, one constructor per cause, and the
wording of each cause.
-/

namespace Clausal

/-- The cause of a failure. -/
inductive Error where
  /-- A text that is no expression. -/
  | unparseable (text : String)
  /-- A variable that is bound nowhere and names no function. -/
  | undefinedVariable (name : String)
  /-- An applied name that is bound nowhere and names no function. -/
  | undefinedFunction (name : String)
  /-- No clause of the function accepts the arguments, which are given as they are written. -/
  | noClauseMatched (function : String) (arguments : List String)
  /-- A builtin or a section is given a number of arguments that it does not take. -/
  | arityMismatch (function : String) (expected got : Nat)
  /-- A value of one kind stands where another kind is needed. -/
  | typeMismatch (expected got : String)
  /-- An operation needs a list with at least one element. -/
  | emptyList (operation : String)
  /-- A builtin refuses its arguments for a reason of its own. -/
  | invalidArguments (function reason : String)
  /-- A top-level variable is bound for a second time. -/
  | immutableReassignment (name : String)
  /-- User functions are nested more deeply than allowed. -/
  | recursionLimit (limit : Nat)
  deriving DecidableEq, Repr

/-- The wording of an error. -/
def Error.message : Error → String
  | unparseable text => "Cannot evaluate expression: " ++ text
  | undefinedVariable name => "Undefined variable: " ++ name
  | undefinedFunction name => "Undefined function: " ++ name
  | noClauseMatched function arguments =>
    "No pattern matched for " ++ function ++ " with arguments ["
      ++ ", ".intercalate arguments ++ "]"
  | arityMismatch function expected got =>
    function ++ " expects " ++ toString expected ++ " argument(s), got " ++ toString got
  | typeMismatch expected got => "Type error: expected " ++ expected ++ ", got " ++ got
  | emptyList operation => "Empty list for operation: " ++ operation
  | invalidArguments function reason =>
    "Invalid arguments for " ++ function ++ ": " ++ reason
  | immutableReassignment name => "Cannot reassign immutable variable: " ++ name
  | recursionLimit limit =>
    "Recursion limit exceeded (max depth: " ++ toString limit ++ ")"

end Clausal
