import Clausal.Config.Basic
import Clausal.Session.Load

/-!
# Sessions

A session is an interpreter in use. Loading a program replaces all definitions, or leaves
them as they are if the program fails; a line typed in binds a variable or is evaluated. What
fails changes nothing.
-/

namespace Clausal

variable [WordClass]

/-- An interpreter in use, with its settings. -/
structure Session where
  config : Config
  interpreter : Interpreter

/-- How much a program has defined. -/
structure LoadReport where
  functions : Nat
  clauses : Nat
  globals : Nat
  deriving DecidableEq, Repr

namespace Session

/-- A session without definitions. Its tools are the standard ones, and no operation changes
them. -/
def new (config : Config) : Session :=
  ⟨config, Interpreter.empty config.maxDepth⟩

/-- How much is defined in a session. -/
def report (session : Session) : LoadReport :=
  ⟨session.interpreter.functionCount, session.interpreter.clauseCount,
    session.interpreter.globalCount⟩

/-- Replaces all definitions with those of a program, which finds the same tools. If the program
fails, the session stays as it is. -/
def load (session : Session) (program : String) : Session × Except Error LoadReport :=
  match Interpreter.ofProgram session.interpreter.registry session.config.commentMarker
      session.config.maxDepth program with
  | .ok interpreter =>
    let loaded := { session with interpreter := interpreter }
    (loaded, .ok loaded.report)
  | .error error => (session, .error error)

/-- Evaluates and binds a variable. A variable that is bound already is refused before
anything is evaluated. -/
def bindLine (session : Session) (name expression : String) :
    Except Error (Session × String) := do
  if session.interpreter.globals.contains name then
    .error (.immutableReassignment name)
  else
    let value ← session.interpreter.evaluate expression
    let interpreter ← session.interpreter.defineVariable name value
    return ({ session with interpreter := interpreter }, name ++ " = " ++ value.text)

/-- What a line does to a session, and the text it answers. A binding answers what it has
bound, and every other line, also one that would be a clause in a program, is evaluated as it
stands. -/
def answer (session : Session) (line : String) : Except Error (Session × String) :=
  match Line.classify session.config.commentMarker line with
  | .blank => .ok (session, "")
  | .binding name expression => session.bindLine name expression
  | .guard | .clause _ _ | .malformed _ => do
    return (session, (← session.interpreter.evaluate line).text)

/-- Takes in one line. If the line fails, the session stays as it is. -/
def enter (session : Session) (line : String) : Session × Except Error String :=
  match session.answer line with
  | .ok (next, text) => (next, .ok text)
  | .error error => (session, .error error)

/-- Evaluates an expression. -/
def evaluate (session : Session) (text : String) : Result :=
  session.interpreter.evaluate text

/-- Applies a name to arguments. -/
def apply (session : Session) (name : String) (arguments : List Value) : Result :=
  session.interpreter.apply name arguments

end Session

end Clausal
