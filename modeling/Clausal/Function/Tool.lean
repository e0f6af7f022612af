import Clausal.Names
import Clausal.Value.Basic

/-!
# Tools

A tool is a function that looks at its arguments only. An interpreter finds its tools by name in a
registry, which holds one tool under each name.
-/

namespace Clausal

/-- A function that looks at its arguments only. -/
structure Tool where
  /-- The name that the tool is registered under. -/
  name : String
  /-- What the tool does, in a few words. -/
  description : String
  /-- The number of arguments that the tool takes, if it does not take any number of them. -/
  arity : Option Nat
  /-- What the tool yields. -/
  execute : List Value → Result

/-- Applies a tool under the name that it was found by. Only a tool with a fixed number of
arguments has them counted. -/
def Tool.apply (tool : Tool) (name : String) (arguments : List Value) : Result :=
  match tool.arity with
  | some arity =>
    if arguments.length = arity then tool.execute arguments
    else .error (.arityMismatch name arity arguments.length)
  | none => tool.execute arguments

/-- Tools, each under its name. -/
abbrev Registry := Names Tool

namespace Registry

/-- Adds a tool, in place of the one that had its name. -/
def register (registry : Registry) (tool : Tool) : Registry :=
  registry.insert tool.name tool

/-- The registry of some tools. Of two tools with one name it holds the first. -/
def ofTools (tools : List Tool) : Registry :=
  tools.foldr (fun tool registry => registry.register tool) Names.empty

/-- The names of the tools. -/
def names (registry : Registry) : List String :=
  registry.entries.map Prod.fst

/-- Applies the tool of a name, if there is one. -/
def call (registry : Registry) (name : String) (arguments : List Value) : Result :=
  match registry.get? name with
  | some tool => tool.apply name arguments
  | none => .error (.undefinedFunction name)

@[simp]
theorem get?_register (registry : Registry) (tool : Tool) (name : String) :
    (registry.register tool).get? name =
      if name = tool.name then some tool else registry.get? name :=
  Names.get?_insert registry tool.name name tool

/-- A tool is found by its name. -/
theorem get?_ofTools (tools : List Tool) (name : String) :
    (ofTools tools).get? name = tools.find? fun tool => tool.name == name := by
  induction tools with
  | nil => rfl
  | cons tool tools ih =>
    rw [ofTools, List.foldr_cons, ← ofTools, get?_register, ih, List.find?_cons]
    by_cases same : name = tool.name
    · simp [same]
    · simp [same, beq_eq_false_iff_ne.mpr (Ne.symm same)]

end Registry

end Clausal
