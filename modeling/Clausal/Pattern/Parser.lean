import Clausal.Expr.Parser
import Clausal.Pattern.Basic

/-!
# Reading patterns

Every token of a parameter text is one pattern. Lists of names, pairs `(h:t)` of names, names
and `_` are patterns that take a value apart; every other token has to be a constant.
-/

namespace Clausal.Pattern

open Token

/-- The constant that a lexeme denotes as an expression of its own. -/
def literalOf (lexeme : List Char) : Except Error Pattern := do
  let expr ← Expr.ofChars lexeme
  match expr.constant? with
  | some value => return .literal value
  | none => Expr.refuse lexeme

/-- The two names in the inner text of `(h:t)`. -/
def consNames? (inner : List Char) : Option (String × String) :=
  match (scan inner).map Token.kind with
  | [.identifier head, .operator symbol, .identifier tail] =>
    if symbol = Operator.cons.symbol then some (head, tail) else none
  | _ => none

/-- Whether a text is one identifier and nothing else. -/
def isName (text : List Char) : Bool :=
  match (scan text).map Token.kind with
  | [.identifier name] => name.toList == text
  | _ => false

/-- Reads one token as a pattern. -/
def ofToken (token : Token) : Except Error Pattern :=
  match token.kind with
  | .list inner =>
    if (Text.trim inner).isEmpty then .ok .emptyList
    else if (items inner).all isName then .ok (.elements ((items inner).map String.ofList))
    else literalOf token.lexeme
  | .group inner =>
    match consNames? inner with
    | some (head, tail) => .ok (.cons head tail)
    | none => literalOf token.lexeme
  | .identifier name =>
    if name = "_" then .ok .wildcard
    else if (Expr.truthName? name).isNone then .ok (.variable name)
    else literalOf token.lexeme
  | _ => literalOf token.lexeme

/-- Reads a parameter text, one pattern for each token. -/
def parseAll (text : List Char) : Except Error (List Pattern) :=
  (scan text).mapM ofToken

end Clausal.Pattern
