import Clausal.Pattern.Parser
import Clausal.Text.Word

/-!
# Lines of a program

A line of a program is a clause of a function, the binding of a variable, or nothing that
defines anything. What stands before the first lone `=` decides: a name with parameters makes
a clause and a bare name a binding.
-/

namespace Clausal

open Text

/-- What a line of a program is. -/
inductive Line where
  /-- A line without contents, or a comment. -/
  | blank
  /-- A line that starts with a bar. The language has no guards. -/
  | guard
  /-- A clause of a function. -/
  | clause (name : String) (clause : Clause)
  /-- The binding of a variable. The expression stays a text, so it is read when it is
  evaluated. -/
  | binding (name : String) (expression : String)
  /-- Anything else, with the reason why it defines nothing. -/
  | malformed (reason : String)

namespace Line

/-- The texts before and after the first token that is exactly the operator `=`. -/
def splitDefinition? (line : List Char) : Option (List Char × List Char) :=
  ((Token.scan line).find? fun token => token.symbol? == some "=").map fun token =>
    (line.take token.offset, line.drop (token.offset + 1))

variable [WordClass]

/-- Whether a character may start the name that is defined. -/
def isHeadStart (c : Char) : Bool :=
  c.isAlpha || c == '_'

/-- Whether a character may continue the name that is defined. -/
def isHeadChar (c : Char) : Bool :=
  WordClass.isWordCharacter c || c == '\''

/-- The name at the start of a definition and what follows it on the same line. -/
def splitHead? (text : List Char) : Option (List Char × List Char) :=
  match text with
  | [] => none
  | c :: rest =>
    if isHeadStart c && !(rest.dropWhile isHeadChar).contains '\n' then
      some (c :: rest.takeWhile isHeadChar, rest.dropWhile isHeadChar)
    else none

/-- Whether a line is a comment. An empty marker marks nothing. -/
def isComment (marker line : List Char) : Bool :=
  !marker.isEmpty && marker.isPrefixOf line

/-- The clause of a function with the given parameter text and body. A parameter text without
tokens makes no clause, and the body is read only after the parameters. -/
def ofClause (name : String) (parameters body : List Char) : Line :=
  match Pattern.parseAll parameters with
  | .error error => .malformed error.message
  | .ok [] => .malformed ("no parameter patterns in `" ++ String.ofList parameters ++ "`")
  | .ok patterns =>
    match Expr.ofChars body with
    | .error error => .malformed error.message
    | .ok expr => .clause name ⟨patterns, expr⟩

/-- What a line without blanks at its ends is. -/
def ofTrimmed (marker line : List Char) : Line :=
  if line.isEmpty || isComment marker line then .blank
  else if line.head? = some '|' then .guard
  else
    match splitDefinition? line with
    | none => .malformed "no definition `=` found"
    | some (left, right) =>
      if (trim right).isEmpty then .malformed "empty right-hand side"
      else
        match splitHead? (trim left) with
        | none => .malformed "definition must start with an identifier"
        | some (name, parameters) =>
          if (trim parameters).isEmpty then
            .binding (String.ofList name) (String.ofList (trim right))
          else ofClause (String.ofList name) (trim parameters) right

/-- What a line is, given the marker that comments start with. -/
def classify (marker line : String) : Line :=
  ofTrimmed marker.toList (trim line.toList)

end Line

end Clausal
