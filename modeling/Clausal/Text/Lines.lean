/-!
# Lines of a text

A line ends at a line feed, and a carriage return right before the line feed belongs to the
end of the line. What follows the last line feed is a line of its own unless it is empty.
-/

namespace Clausal.Text

/-- A line without the carriage return that stands right before its line feed. -/
def withoutReturn (line : List Char) : List Char :=
  if line.getLast? = some '\r' then line.dropLast else line

/-- The lines of a text, `line` being what was read of the first one, backwards. -/
def linesFrom (line : List Char) : List Char → List (List Char)
  | [] => if line.isEmpty then [] else [line.reverse]
  | '\n' :: rest => withoutReturn line.reverse :: linesFrom [] rest
  | c :: rest => linesFrom (c :: line) rest

/-- The lines of a text, without their ends. -/
def lines (text : String) : List String :=
  (linesFrom [] text.toList).map String.ofList

end Clausal.Text
