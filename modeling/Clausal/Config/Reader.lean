import Clausal.Config.Basic
import Clausal.Config.Json

/-!
# Reading settings

Reading settings from a text is left to a library for JSON. The console takes the reader as a
parameter, and nothing that is proved of the console depends on which texts hold settings.

The reader here takes a JSON object with optional members, or an array with the same values in
order. What is left out has its default, and members that are no settings are ignored. A setting
that is given twice, or as the wrong kind of value, makes the whole text invalid.
-/

namespace Clausal

/-- A reader of settings. -/
class SettingsReader where
  /-- The settings that a text holds, or why it holds none. -/
  readSettings : String → Except String Config

namespace Config

/-- A comment marker is any string. -/
def marker? : Json → Option String
  | .string text => text
  | _ => none

/-- A depth is a natural number of 64 bits. -/
def depth? : Json → Option Nat
  | .natural value => if value < Nat.pow 2 64 then some value else none
  | _ => none

/-- The value of a setting among the members of an object, or its default if no member has
its name. -/
def setting? {α : Type} (members : List (Option String × Json)) (name : String)
    (read? : Json → Option α) (default : α) : Option α :=
  match members.filter fun member => member.1 == some name with
  | [] => some default
  | [member] => read? member.2
  | _ => none

/-- The settings that a JSON value holds. -/
def ofJson? : Json → Option Config
  | .object members => do
    if members.any fun member => member.1.isNone then none
    let marker ← setting? members "comment_marker" marker? standard.commentMarker
    let depth ← setting? members "max_depth" depth? standard.maxDepth
    return ⟨marker, depth⟩
  | .array [] => some standard
  | .array [marker] => do return { standard with commentMarker := ← marker? marker }
  | .array [marker, depth] => do return ⟨← marker? marker, ← depth? depth⟩
  | _ => none

/-- The settings that a text holds. -/
def parse? (text : String) : Option Config := do
  ofJson? (← Json.parse? text)

end Config

/-- The reader that programs run with. It does not say which part of a text it cannot read. -/
instance SettingsReader.json : SettingsReader where
  readSettings text :=
    match Config.parse? text with
    | some config => .ok config
    | none => .error "the text holds no settings"

end Clausal
