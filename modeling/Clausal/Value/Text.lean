import Clausal.Number.Shortest
import Clausal.Value.Basic

/-!
# The text of values

A value is written as the reader of a result sees it: strings bare, truth values in lower
case, lists in brackets, and functions in angle brackets.
-/

namespace Clausal

mutual

/-- The characters that write a value. -/
def Value.chars : Value → List Char
  | .number value => Shortest.text value
  | .bool true => "true".toList
  | .bool false => "false".toList
  | .string text => text.toList
  | .list items => '[' :: Value.charsSeparated items ++ [']']
  | .function callable => callable.chars

/-- The characters that write values with a comma and a space between them. -/
def Value.charsSeparated : List Value → List Char
  | [] => []
  | [item] => item.chars
  | item :: items => item.chars ++ ',' :: ' ' :: Value.charsSeparated items

/-- The characters that write a function value. -/
def Callable.chars : Callable → List Char
  | .named name => "<function ".toList ++ name.toList ++ ['>']
  | .operator op => "<section (".toList ++ op.symbol.toList ++ [')', '>']
  | .left operand op => "<section (".toList ++ operand.chars ++ op.symbol.toList ++ [')', '>']
  | .right op operand => "<section (".toList ++ op.symbol.toList ++ operand.chars ++ [')', '>']

end

/-- The text of a value. -/
def Value.text (value : Value) : String :=
  String.ofList value.chars

/-- The text of a function value. -/
def Callable.text (callable : Callable) : String :=
  String.ofList callable.chars

end Clausal
