import Clausal.Expr.Basic

/-!
# Patterns and clauses

A clause is one line of a function's definition: a pattern for each parameter, and the body
that is evaluated when every argument matches.
-/

namespace Clausal

/-- The pattern of a parameter. -/
inductive Pattern where
  /-- The empty list and nothing else. -/
  | emptyList
  /-- A list with at least one element, whose first element and rest are named. -/
  | cons (head tail : String)
  /-- A list with exactly as many elements as there are names. -/
  | elements (names : List String)
  /-- Anything, under a name. -/
  | variable (name : String)
  /-- Anything, without a name. -/
  | wildcard
  /-- A value that is equal to a constant. -/
  | literal (value : Value)

/-- One clause of a function. -/
structure Clause where
  parameters : List Pattern
  body : Expr

namespace Clause

/-- The number of arguments that a clause takes. -/
def arity (clause : Clause) : Nat :=
  clause.parameters.length

end Clause

end Clausal
