import Clausal.Session.Basic
import Clausal.Text.Quoted

/-!
# Outcomes as JSON

A host that knows nothing of errors and values gets the outcome of loading a program or of
entering a line as a compact JSON object.
-/

namespace Clausal

open Text

/-- A JSON object with the given members, whose values are JSON already. -/
def jsonObject (members : List (String × String)) : String :=
  "\x7b" ++ ",".intercalate (members.map fun member => quoted member.1 ++ ":" ++ member.2)
    ++ "\x7d"

/-- The JSON object of a failure. -/
def Error.json (error : Error) : String :=
  jsonObject [("ok", "false"), ("errorMessage", quoted error.message)]

/-- The JSON object of a loaded program. -/
def LoadReport.json (report : LoadReport) : String :=
  jsonObject [("ok", "true"), ("loadedFunctionCount", toString report.functions),
    ("loadedClauseCount", toString report.clauses),
    ("loadedVariableCount", toString report.globals)]

namespace Session

/-- The JSON object of a load. -/
def loadJson : Except Error LoadReport → String
  | .ok report => report.json
  | .error error => error.json

/-- The JSON object of a line. -/
def enterJson : Except Error String → String
  | .ok text => jsonObject [("ok", "true"), ("resultText", quoted text)]
  | .error error => error.json

end Session

end Clausal
