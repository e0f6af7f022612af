import Clausal.Interpreter.Eval
import Clausal.Line
import Clausal.Text.Lines

/-!
# Loading programs

A program is loaded line by line into an interpreter without definitions. Consecutive clauses
of one name form a function, which is defined when a clause of another name, a binding or the
end of the program follows; a function that is written in two places keeps only the clauses
of the later place. A binding is evaluated where it stands, and the first one that fails makes
the whole program fail. Lines that define nothing are skipped and separate nothing.
-/

namespace Clausal

variable [WordClass]

/-- A program while it is loaded: what is defined so far, and the clauses of the function that
is not complete yet. -/
structure Loading where
  interpreter : Interpreter
  pending : Option (String × List Clause)

namespace Loading

/-- The state before the first line. -/
def start (registry : Registry) (maxDepth : Nat) : Loading :=
  ⟨Interpreter.withRegistry registry maxDepth, none⟩

/-- What is defined once the pending function is complete. -/
def complete (loading : Loading) : Interpreter :=
  match loading.pending with
  | some (name, clauses) => loading.interpreter.defineFunction name clauses
  | none => loading.interpreter

/-- Adds a clause: to the pending function if it has the same name, and otherwise as the
first clause of a function that is pending from now on. -/
def addClause (loading : Loading) (name : String) (clause : Clause) : Loading :=
  match loading.pending with
  | some (current, clauses) =>
    if current = name then { loading with pending := some (name, clauses ++ [clause]) }
    else ⟨loading.complete, some (name, [clause])⟩
  | none => ⟨loading.complete, some (name, [clause])⟩

/-- Evaluates and binds a variable, with the pending function complete. -/
def addBinding (loading : Loading) (name expression : String) : Except Error Loading := do
  let interpreter := loading.complete
  let value ← interpreter.evaluate expression
  return ⟨← interpreter.defineVariable name value, none⟩

/-- Takes in one line. -/
def add (loading : Loading) : Line → Except Error Loading
  | .clause name clause => .ok (loading.addClause name clause)
  | .binding name expression => loading.addBinding name expression
  | .blank | .guard | .malformed _ => .ok loading

/-- Takes in lines one after the other. -/
def addAll (loading : Loading) (lines : List Line) : Except Error Loading :=
  lines.foldlM add loading

end Loading

/-- The interpreter that a program defines. -/
def Interpreter.ofProgram (registry : Registry) (commentMarker : String) (maxDepth : Nat)
    (program : String) : Except Error Interpreter := do
  let lines := (Text.lines program).map (Line.classify commentMarker)
  return (← (Loading.start registry maxDepth).addAll lines).complete

end Clausal
