/-!
# Binary operators

The eleven binary operators and their spellings. The order of `Operator.all` is the order of
precedence, loosest first: an operator that comes earlier binds less tightly.
-/

namespace Clausal

/-- A binary operator. -/
inductive Operator where
  | add
  | sub
  | mul
  | div
  | lt
  | gt
  | le
  | ge
  | eq
  | cons
  | ne
  deriving DecidableEq, Repr, Inhabited

namespace Operator

/-- The operators from the loosest to the tightest. -/
def all : List Operator :=
  [add, sub, mul, div, lt, gt, le, ge, eq, cons, ne]

/-- The spelling of an operator. -/
def symbol : Operator → String
  | add => "+"
  | sub => "-"
  | mul => "*"
  | div => "/"
  | lt => "<"
  | gt => ">"
  | le => "<="
  | ge => ">="
  | eq => "=="
  | cons => ":"
  | ne => "/="

/-- The operator with exactly this spelling. -/
def ofSymbol? (symbol : String) : Option Operator :=
  all.find? fun op => op.symbol == symbol

theorem mem_all (op : Operator) : op ∈ all := by
  cases op <;> decide

/-- Reading a spelling gives back the operator that is spelled so. -/
theorem ofSymbol?_symbol (op : Operator) : ofSymbol? op.symbol = some op := by
  cases op <;> decide

/-- A text is read as an operator exactly when it is the spelling of it. -/
theorem ofSymbol?_eq_some_iff {text : String} {op : Operator} :
    ofSymbol? text = some op ↔ op.symbol = text := by
  constructor
  · intro h
    simpa using List.find?_some h
  · rintro rfl
    exact ofSymbol?_symbol op

end Operator

end Clausal
