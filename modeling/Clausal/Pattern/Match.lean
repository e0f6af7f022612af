import Clausal.Names
import Clausal.Pattern.Basic
import Clausal.Value.Equality

/-!
# Matching

A pattern matches a value or does not, and a match binds the names of the pattern. The name
`_` is never bound, and of a name that occurs more than once the last occurrence counts.
-/

namespace Clausal

/-- The names bound while the body of a clause is evaluated. -/
abbrev Bindings := Names Value

namespace Bindings

/-- Binds a name to a value, unless the name is `_`. -/
def bind (bindings : Bindings) (name : String) (value : Value) : Bindings :=
  if name = "_" then bindings else bindings.insert name value

/-- The bindings that arise when names are bound to values one after the other. -/
def ofParts (parts : List (String × Value)) : Bindings :=
  parts.foldl (fun bindings part => bind bindings part.1 part.2) Names.empty

end Bindings

/-- The names of a pattern with the parts of the value that they stand for, in the order in
which they are written, or nothing if the pattern does not match. -/
def Pattern.parts? : Pattern → Value → Option (List (String × Value))
  | .emptyList, .list [] => some []
  | .cons head tail, .list (item :: items) => some [(head, item), (tail, .list items)]
  | .elements names, .list items =>
    if names.length = items.length then some (names.zip items) else none
  | .variable name, value => some [(name, value)]
  | .wildcard, _ => some []
  | .literal constant, value => if constant.equals value then some [] else none
  | _, _ => none

/-- The bindings of a value that matches a pattern. -/
def Pattern.match? (pattern : Pattern) (value : Value) : Option Bindings :=
  (pattern.parts? value).map Bindings.ofParts

/-- The names of patterns with the parts of the arguments that they stand for, if there are
as many arguments as patterns and each argument matches. -/
def Pattern.partsAll? : List Pattern → List Value → Option (List (String × Value))
  | [], [] => some []
  | pattern :: patterns, value :: values =>
    match pattern.parts? value, partsAll? patterns values with
    | some parts, some others => some (parts ++ others)
    | _, _ => none
  | _, _ => none

/-- The bindings of the arguments that match a clause. -/
def Clause.match? (clause : Clause) (arguments : List Value) : Option Bindings :=
  (Pattern.partsAll? clause.parameters arguments).map Bindings.ofParts

end Clausal
