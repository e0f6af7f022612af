import Clausal.Value.Basic

/-!
# Expressions

The syntax trees of the language: literals, lists, variables, binary operators, applications
of a name to arguments, and sections, which are operators with an operand or two left out.
-/

namespace Clausal

/-- An expression. -/
inductive Expr where
  | number (value : Float)
  | string (text : String)
  | bool (value : Bool)
  | list (items : List Expr)
  | variable (name : String)
  | binary (op : Operator) (left right : Expr)
  /-- A name applied to one argument or more. -/
  | application (name : String) (arguments : List Expr)
  /-- The section `(op)`, a function of both operands. -/
  | bareSection (op : Operator)
  /-- The section `(operand op)`, a function of the right operand. -/
  | leftSection (operand : Expr) (op : Operator)
  /-- The section `(op operand)`, a function of the left operand. -/
  | rightSection (op : Operator) (operand : Expr)
  deriving Repr

namespace Expr

instance : Inhabited Expr := ⟨.bool false⟩

/-- The truth value that a name stands for. The two spellings of each are no variables. -/
def truthName? (name : String) : Option Bool :=
  if name = "True" ∨ name = "true" then some true
  else if name = "False" ∨ name = "false" then some false
  else none

/-! ## Constants -/

mutual

/-- The value of an expression that is made of literals and lists only. -/
def constant? : Expr → Option Value
  | .number value => some (.number value)
  | .string text => some (.string text)
  | .bool value => some (.bool value)
  | .list items => (constants? items).map .list
  | _ => none

/-- The values of expressions that are all constant. -/
def constants? : List Expr → Option (List Value)
  | [] => some []
  | item :: items =>
    match constant? item, constants? items with
    | some value, some values => some (value :: values)
    | _, _ => none

end

theorem constants?_cons_eq_some_iff {item : Expr} {items : List Expr} {constants : List Value} :
    constants? (item :: items) = some constants ↔ ∃ value values, item.constant? = some value ∧
      constants? items = some values ∧ constants = value :: values := by
  rw [constants?]
  cases item.constant? <;> cases constants? items <;> simp [eq_comm]

end Expr

end Clausal
