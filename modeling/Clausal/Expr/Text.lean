import Clausal.Expr.Basic
import Clausal.Number.Shortest

/-!
# The text of expressions

An expression is written with parentheses around everything that has parts, so the text shows
the tree whatever the precedence of the operators in it.
-/

namespace Clausal.Expr

mutual

/-- The characters that write an expression. -/
def chars : Expr → List Char
  | .number value => Shortest.text value
  | .string text => '"' :: text.toList ++ ['"']
  | .bool true => "True".toList
  | .bool false => "False".toList
  | .list items => '[' :: charsSeparated items ++ [']']
  | .variable name => name.toList
  | .binary op left right =>
    '(' :: chars left ++ ' ' :: op.symbol.toList ++ ' ' :: chars right ++ [')']
  | .application name arguments => '(' :: name.toList ++ charsSpaced arguments ++ [')']
  | .bareSection op => '(' :: op.symbol.toList ++ [')']
  | .leftSection operand op => '(' :: chars operand ++ ' ' :: op.symbol.toList ++ [')']
  | .rightSection op operand => '(' :: op.symbol.toList ++ ' ' :: chars operand ++ [')']

/-- The characters that write expressions with a comma and a space between them. -/
def charsSeparated : List Expr → List Char
  | [] => []
  | [item] => chars item
  | item :: items => chars item ++ ',' :: ' ' :: charsSeparated items

/-- The characters that write expressions with a space before each. -/
def charsSpaced : List Expr → List Char
  | [] => []
  | item :: items => ' ' :: chars item ++ charsSpaced items

end

/-- The text of an expression. -/
def text (expr : Expr) : String :=
  String.ofList expr.chars

end Clausal.Expr
