import Clausal.Function.Apply
import Clausal.Function.Primitive
import Clausal.Expr.Parser
import Clausal.Pattern.Match

/-!
# Evaluation

An interpreter holds the user functions, the top-level variables, the limit on how deeply user
functions may be nested, and the tools. Evaluation is built up in three steps, each total for a
reason of its own: an expression is evaluated by recursion on the expression, a name is applied by
recursion on the number of arguments, and a user function by recursion on the depth that is left.
-/

namespace Clausal

/-! ## Expressions -/

/-- What an expression can see: the values of names, and which other names are functions. -/
structure Scope where
  value? : String → Option Value
  isFunction : String → Bool

/-- The value of a name that stands alone. A name without a value that names a function is the
function itself. -/
def Scope.lookup (scope : Scope) (name : String) : Result :=
  match scope.value? name with
  | some value => .ok value
  | none =>
    if scope.isFunction name then .ok (.function (.named name))
    else .error (.undefinedVariable name)

/-- Applies a name as the head of an application: a value of that name is called, and only a
name without a value is applied as a name. -/
def Scope.applyHead (scope : Scope) (apply : Application) (name : String)
    (arguments : List Value) : Result :=
  match scope.value? name with
  | some (.function callable) => callable.call apply arguments
  | some other => .error (.typeMismatch "function" other.kind)
  | none => apply name arguments

mutual

/-- Evaluates an expression. Operands, items and arguments are evaluated from left to right,
and the first error is the result. -/
def Expr.evalIn (scope : Scope) (apply : Application) : Expr → Result
  | .number value => .ok (.number value)
  | .string text => .ok (.string text)
  | .bool value => .ok (.bool value)
  | .list items => return .list (← Expr.evalAllIn scope apply items)
  | .variable name => scope.lookup name
  | .binary op left right => do
    -- Both operands are evaluated before the kind of either is looked at.
    let leftValue ← left.evalIn scope apply
    let rightValue ← right.evalIn scope apply
    op.apply leftValue rightValue
  | .application name arguments => do
    let values ← Expr.evalAllIn scope apply arguments
    scope.applyHead apply name values
  | .bareSection op => .ok (.function (.operator op))
  | .leftSection operand op => return .function (.left (← operand.evalIn scope apply) op)
  | .rightSection op operand => return .function (.right op (← operand.evalIn scope apply))

/-- Evaluates expressions from left to right. -/
def Expr.evalAllIn (scope : Scope) (apply : Application) :
    List Expr → Except Error (List Value)
  | [] => .ok []
  | expr :: exprs => do
    let value ← expr.evalIn scope apply
    let values ← Expr.evalAllIn scope apply exprs
    return value :: values

end

/-! ## Interpreters -/

/-- User functions, each with its clauses in the order in which they are tried. -/
abbrev Definitions := Names (List Clause)

/-- The state that expressions are evaluated in. -/
structure Interpreter where
  definitions : Definitions
  globals : Names Value
  maxDepth : Nat
  registry : Registry

/-- The first clause that the arguments match, as its body and the bindings. -/
def firstMatch? (clauses : List Clause) (arguments : List Value) : Option (Expr × Bindings) :=
  clauses.findSome? fun clause =>
    (clause.match? arguments).map fun bindings => (clause.body, bindings)

namespace Interpreter

/-- An interpreter with the given tools, without definitions and variables. -/
def withRegistry (registry : Registry) (maxDepth : Nat) : Interpreter :=
  ⟨Names.empty, Names.empty, maxDepth, registry⟩

/-- An interpreter with the standard tools, without definitions and variables. -/
def empty (maxDepth : Nat) : Interpreter :=
  withRegistry Registry.standard maxDepth

/-- Whether a name can be applied as a builtin, as a tool or as a user function. -/
def isFunction (interp : Interpreter) (name : String) : Bool :=
  (HigherOrder.ofName? name).isSome || interp.registry.contains name
    || interp.definitions.contains name

/-- What an expression sees under the bindings of a clause: these come first, and then the
top-level variables. -/
def scope (interp : Interpreter) (frame : Bindings) : Scope where
  value? name := (frame.get? name).or (interp.globals.get? name)
  isFunction := interp.isFunction

/-- Applies a user function with `depth` more levels of user functions to go. The limit is
reported before any clause is tried. -/
def applyUser (interp : Interpreter) (depth : Nat) (name : String) (arguments : List Value) :
    Result :=
  match interp.definitions.get? name with
  | none => .error (.undefinedFunction name)
  | some clauses =>
    match depth with
    | 0 => .error (.recursionLimit interp.maxDepth)
    | depth + 1 =>
      match firstMatch? clauses arguments with
      | none => .error (.noClauseMatched name (arguments.map Value.text))
      | some (body, bindings) =>
        -- The names of the caller are out of sight in the body.
        body.evalIn (interp.scope bindings) (applyName interp.registry (interp.applyUser depth))

/-- Applies a name to arguments. -/
def apply (interp : Interpreter) : Application :=
  applyName interp.registry (interp.applyUser interp.maxDepth)

/-- Calls a function value on arguments. -/
def call (interp : Interpreter) (callable : Callable) (arguments : List Value) : Result :=
  callable.call interp.apply arguments

/-- Evaluates an expression under the bindings of a clause. -/
def eval (interp : Interpreter) (expr : Expr) (frame : Bindings) : Result :=
  expr.evalIn (interp.scope frame) interp.apply

/-- Reads and evaluates a text against the top-level state. -/
def evaluate (interp : Interpreter) (text : String) : Result := do
  interp.eval (← Expr.parse text) Names.empty

/-! ## Changes -/

/-- Gives a user function its clauses, in place of those it had. -/
def defineFunction (interp : Interpreter) (name : String) (clauses : List Clause) : Interpreter :=
  { interp with definitions := interp.definitions.insert name clauses }

@[simp]
theorem registry_defineFunction (interp : Interpreter) (name : String) (clauses : List Clause) :
    (interp.defineFunction name clauses).registry = interp.registry := rfl

/-- Binds a top-level variable that is not bound yet. -/
def defineVariable (interp : Interpreter) (name : String) (value : Value) :
    Except Error Interpreter :=
  if interp.globals.contains name then .error (.immutableReassignment name)
  else .ok { interp with globals := interp.globals.insert name value }

/-- The number of user functions. -/
def functionCount (interp : Interpreter) : Nat :=
  interp.definitions.size

/-- The number of clauses of all user functions. -/
def clauseCount (interp : Interpreter) : Nat :=
  (interp.definitions.values.map List.length).foldl (· + ·) 0

/-- The number of top-level variables. -/
def globalCount (interp : Interpreter) : Nat :=
  interp.globals.size

end Interpreter

end Clausal
