import Clausal.Proofs.Evaluation.Layers

/-!
# Evaluation without a limit

The rules of evaluation as a derivation relation that knows no limit on nested user functions.
A derivation has a height, the largest number of user functions nested inside one another on any
branch: entering a user function adds one, builtins add nothing, and of several premises the
highest counts, so siblings and successive callbacks do not add up.

Evaluations of an expression, applications, calls and the walks of the higher-order builtins
over a list are tasks of one relation, so that a derivation is one tree.
-/

namespace Clausal

/-! ## Rules -/

/-- What a derivation is about. The tasks that work through a list yield a list value. -/
inductive Task where
  | eval (expr : Expr) (frame : Bindings)
  | evalAll (exprs : List Expr) (frame : Bindings)
  | apply (name : String) (arguments : List Value)
  | call (callable : Callable) (arguments : List Value)
  | map (callable : Callable) (items : List Value)
  | filter (callable : Callable) (items : List Value)
  | fold (callable : Callable) (start : Value) (items : List Value)

/-- `Derives interp task result height`: without a limit, the task has this result, by a
derivation of this height. Of the interpreter only the definitions, variables and tools matter. -/
inductive Derives (interp : Interpreter) : Task → Result → Nat → Prop where
  -- Expressions
  | number {value : Float} {frame : Bindings} :
      Derives interp (.eval (.number value) frame) (.ok (.number value)) 0
  | string {text : String} {frame : Bindings} :
      Derives interp (.eval (.string text) frame) (.ok (.string text)) 0
  | bool {value : Bool} {frame : Bindings} :
      Derives interp (.eval (.bool value) frame) (.ok (.bool value)) 0
  | list {items : List Expr} {frame : Bindings} {result : Result} {h : Nat} :
      Derives interp (.evalAll items frame) result h →
      Derives interp (.eval (.list items) frame) result h
  | lookup {name : String} {frame : Bindings} :
      Derives interp (.eval (.variable name) frame) ((interp.scope frame).lookup name) 0
  | binaryLeft {op : Operator} {left right : Expr} {frame : Bindings} {error : Error} {h : Nat} :
      Derives interp (.eval left frame) (.error error) h →
      Derives interp (.eval (.binary op left right) frame) (.error error) h
  | binaryRight {op : Operator} {left right : Expr} {frame : Bindings} {a : Value} {error : Error}
      {h k : Nat} :
      Derives interp (.eval left frame) (.ok a) h →
      Derives interp (.eval right frame) (.error error) k →
      Derives interp (.eval (.binary op left right) frame) (.error error) (max h k)
  | binary {op : Operator} {left right : Expr} {frame : Bindings} {a b : Value} {h k : Nat} :
      Derives interp (.eval left frame) (.ok a) h →
      Derives interp (.eval right frame) (.ok b) k →
      Derives interp (.eval (.binary op left right) frame) (op.apply a b) (max h k)
  | arguments {name : String} {arguments : List Expr} {frame : Bindings} {error : Error}
      {h : Nat} :
      Derives interp (.evalAll arguments frame) (.error error) h →
      Derives interp (.eval (.application name arguments) frame) (.error error) h
  | headFunction {name : String} {arguments : List Expr} {frame : Bindings}
      {values : List Value} {callable : Callable} {result : Result} {h k : Nat} :
      Derives interp (.evalAll arguments frame) (.ok (.list values)) h →
      (interp.scope frame).value? name = some (.function callable) →
      Derives interp (.call callable values) result k →
      Derives interp (.eval (.application name arguments) frame) result (max h k)
  | headMismatch {name : String} {arguments : List Expr} {frame : Bindings}
      {values : List Value} {value : Value} {h : Nat} :
      Derives interp (.evalAll arguments frame) (.ok (.list values)) h →
      (interp.scope frame).value? name = some value →
      (∀ callable, value ≠ .function callable) →
      Derives interp (.eval (.application name arguments) frame)
        (.error (.typeMismatch "function" value.kind)) h
  | headName {name : String} {arguments : List Expr} {frame : Bindings}
      {values : List Value} {result : Result} {h k : Nat} :
      Derives interp (.evalAll arguments frame) (.ok (.list values)) h →
      (interp.scope frame).value? name = none →
      Derives interp (.apply name values) result k →
      Derives interp (.eval (.application name arguments) frame) result (max h k)
  | bareSection {op : Operator} {frame : Bindings} :
      Derives interp (.eval (.bareSection op) frame) (.ok (.function (.operator op))) 0
  | leftSection {operand : Expr} {op : Operator} {frame : Bindings} {value : Value} {h : Nat} :
      Derives interp (.eval operand frame) (.ok value) h →
      Derives interp (.eval (.leftSection operand op) frame)
        (.ok (.function (.left value op))) h
  | leftSectionOperand {operand : Expr} {op : Operator} {frame : Bindings} {error : Error}
      {h : Nat} :
      Derives interp (.eval operand frame) (.error error) h →
      Derives interp (.eval (.leftSection operand op) frame) (.error error) h
  | rightSection {op : Operator} {operand : Expr} {frame : Bindings} {value : Value} {h : Nat} :
      Derives interp (.eval operand frame) (.ok value) h →
      Derives interp (.eval (.rightSection op operand) frame)
        (.ok (.function (.right op value))) h
  | rightSectionOperand {op : Operator} {operand : Expr} {frame : Bindings} {error : Error}
      {h : Nat} :
      Derives interp (.eval operand frame) (.error error) h →
      Derives interp (.eval (.rightSection op operand) frame) (.error error) h
  -- Expressions from left to right
  | evalNil {frame : Bindings} :
      Derives interp (.evalAll [] frame) (.ok (.list [])) 0
  | evalHead {expr : Expr} {exprs : List Expr} {frame : Bindings} {error : Error} {h : Nat} :
      Derives interp (.eval expr frame) (.error error) h →
      Derives interp (.evalAll (expr :: exprs) frame) (.error error) h
  | evalTail {expr : Expr} {exprs : List Expr} {frame : Bindings} {value : Value}
      {error : Error} {h k : Nat} :
      Derives interp (.eval expr frame) (.ok value) h →
      Derives interp (.evalAll exprs frame) (.error error) k →
      Derives interp (.evalAll (expr :: exprs) frame) (.error error) (max h k)
  | evalCons {expr : Expr} {exprs : List Expr} {frame : Bindings} {value : Value}
      {values : List Value} {h k : Nat} :
      Derives interp (.eval expr frame) (.ok value) h →
      Derives interp (.evalAll exprs frame) (.ok (.list values)) k →
      Derives interp (.evalAll (expr :: exprs) frame) (.ok (.list (value :: values))) (max h k)
  -- Names
  | builtinArity {name : String} {arguments : List Value} {builtin : HigherOrder} :
      HigherOrder.ofName? name = some builtin → arguments.length ≠ builtin.arity →
      Derives interp (.apply name arguments)
        (.error (.arityMismatch builtin.name builtin.arity arguments.length)) 0
  | builtinFunction {name : String} {arguments : List Value} {builtin : HigherOrder}
      {function : Value} {error : Error} :
      HigherOrder.ofName? name = some builtin → arguments.length = builtin.arity →
      arguments.head? = some function → function.asCallable = .error error →
      Derives interp (.apply name arguments) (.error error) 0
  | builtinList {name : String} {arguments : List Value} {builtin : HigherOrder}
      {function list : Value} {callable : Callable} {error : Error} :
      HigherOrder.ofName? name = some builtin → arguments.length = builtin.arity →
      arguments.head? = some function → function.asCallable = .ok callable →
      arguments.getLast? = some list → list.asList = .error error →
      Derives interp (.apply name arguments) (.error error) 0
  | map {name : String} {function list : Value} {callable : Callable} {items : List Value}
      {result : Result} {h : Nat} :
      HigherOrder.ofName? name = some .map →
      function.asCallable = .ok callable → list.asList = .ok items →
      Derives interp (.map callable items) result h →
      Derives interp (.apply name [function, list]) result h
  | filter {name : String} {function list : Value} {callable : Callable} {items : List Value}
      {result : Result} {h : Nat} :
      HigherOrder.ofName? name = some .filter →
      function.asCallable = .ok callable → list.asList = .ok items →
      Derives interp (.filter callable items) result h →
      Derives interp (.apply name [function, list]) result h
  | fold {name : String} {function start list : Value} {callable : Callable}
      {items : List Value} {result : Result} {h : Nat} :
      HigherOrder.ofName? name = some .fold →
      function.asCallable = .ok callable → list.asList = .ok items →
      Derives interp (.fold callable start items) result h →
      Derives interp (.apply name [function, start, list]) result h
  | tool {name : String} {arguments : List Value} {tool : Tool} :
      HigherOrder.ofName? name = none → interp.registry.get? name = some tool →
      Derives interp (.apply name arguments) (tool.apply name arguments) 0
  | undefined {name : String} {arguments : List Value} :
      HigherOrder.ofName? name = none → interp.registry.get? name = none →
      interp.definitions.get? name = none →
      Derives interp (.apply name arguments) (.error (.undefinedFunction name)) 0
  -- User functions: here, and only here, a derivation grows
  | unmatched {name : String} {arguments : List Value} {clauses : List Clause} :
      HigherOrder.ofName? name = none → interp.registry.get? name = none →
      interp.definitions.get? name = some clauses → firstMatch? clauses arguments = none →
      Derives interp (.apply name arguments)
        (.error (.noClauseMatched name (arguments.map Value.text))) 1
  | matched {name : String} {arguments : List Value} {clauses : List Clause} {body : Expr}
      {bindings : Bindings} {result : Result} {h : Nat} :
      HigherOrder.ofName? name = none → interp.registry.get? name = none →
      interp.definitions.get? name = some clauses →
      firstMatch? clauses arguments = some (body, bindings) →
      Derives interp (.eval body bindings) result h →
      Derives interp (.apply name arguments) result (h + 1)
  -- Function values
  | named {name : String} {arguments : List Value} {result : Result} {h : Nat} :
      Derives interp (.apply name arguments) result h →
      Derives interp (.call (.named name) arguments) result h
  | operator {op : Operator} {first second : Value} :
      Derives interp (.call (.operator op) [first, second]) (op.apply first second) 0
  | operatorArity {op : Operator} {arguments : List Value} :
      arguments.length ≠ 2 →
      Derives interp (.call (.operator op) arguments)
        (.error (.arityMismatch (Callable.operator op).text 2 arguments.length)) 0
  | left {operand : Value} {op : Operator} {argument : Value} :
      Derives interp (.call (.left operand op) [argument]) (op.apply operand argument) 0
  | leftArity {operand : Value} {op : Operator} {arguments : List Value} :
      arguments.length ≠ 1 →
      Derives interp (.call (.left operand op) arguments)
        (.error (.arityMismatch (Callable.left operand op).text 1 arguments.length)) 0
  | right {op : Operator} {operand argument : Value} :
      Derives interp (.call (.right op operand) [argument]) (op.apply argument operand) 0
  | rightArity {op : Operator} {operand : Value} {arguments : List Value} :
      arguments.length ≠ 1 →
      Derives interp (.call (.right op operand) arguments)
        (.error (.arityMismatch (Callable.right op operand).text 1 arguments.length)) 0
  -- Callbacks
  | mapNil {callable : Callable} :
      Derives interp (.map callable []) (.ok (.list [])) 0
  | mapHead {callable : Callable} {item : Value} {items : List Value} {error : Error} {h : Nat} :
      Derives interp (.call callable [item]) (.error error) h →
      Derives interp (.map callable (item :: items)) (.error error) h
  | mapTail {callable : Callable} {item value : Value} {items : List Value} {error : Error}
      {h k : Nat} :
      Derives interp (.call callable [item]) (.ok value) h →
      Derives interp (.map callable items) (.error error) k →
      Derives interp (.map callable (item :: items)) (.error error) (max h k)
  | mapCons {callable : Callable} {item value : Value} {items values : List Value} {h k : Nat} :
      Derives interp (.call callable [item]) (.ok value) h →
      Derives interp (.map callable items) (.ok (.list values)) k →
      Derives interp (.map callable (item :: items)) (.ok (.list (value :: values))) (max h k)
  | filterNil {callable : Callable} :
      Derives interp (.filter callable []) (.ok (.list [])) 0
  | filterHead {callable : Callable} {item : Value} {items : List Value} {error : Error}
      {h : Nat} :
      Derives interp (.call callable [item]) (.error error) h →
      Derives interp (.filter callable (item :: items)) (.error error) h
  | filterTail {callable : Callable} {item verdict : Value} {items : List Value} {error : Error}
      {h k : Nat} :
      Derives interp (.call callable [item]) (.ok verdict) h →
      Derives interp (.filter callable items) (.error error) k →
      Derives interp (.filter callable (item :: items)) (.error error) (max h k)
  | filterCons {callable : Callable} {item verdict : Value} {items kept : List Value}
      {h k : Nat} :
      Derives interp (.call callable [item]) (.ok verdict) h →
      Derives interp (.filter callable items) (.ok (.list kept)) k →
      Derives interp (.filter callable (item :: items))
        (.ok (.list (if verdict.isTruthy then item :: kept else kept))) (max h k)
  | foldNil {callable : Callable} {start : Value} :
      Derives interp (.fold callable start []) (.ok start) 0
  | foldStop {callable : Callable} {start item : Value} {items : List Value} {error : Error}
      {h : Nat} :
      Derives interp (.call callable [start, item]) (.error error) h →
      Derives interp (.fold callable start (item :: items)) (.error error) h
  | foldStep {callable : Callable} {start item next : Value} {items : List Value}
      {result : Result} {h k : Nat} :
      Derives interp (.call callable [start, item]) (.ok next) h →
      Derives interp (.fold callable next items) result k →
      Derives interp (.fold callable start (item :: items)) result (max h k)

end Clausal
