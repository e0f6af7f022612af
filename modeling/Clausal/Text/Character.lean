import Clausal.Text.AlphabeticTable
import Clausal.Text.CategoryTables

/-!
# Classes of characters

The classes that decide where names begin and end. For the ASCII characters every class is
given outright, and only beyond them is a table read, so a fact about a punctuation mark or a
digit never has to look into a table.
-/

namespace Clausal.Text

/-! ## Properties read off a table -/

/-- Whether a code point lies in one of the ranges. -/
def inRanges (ranges : List (Nat × Nat)) (c : Char) : Bool :=
  ranges.any fun range => range.1 ≤ c.toNat && c.toNat ≤ range.2

/-- An ASCII character, one of the first 128. -/
def isAscii (c : Char) : Bool :=
  c.toNat < 128

/-- A character with the property Alphabetic. -/
def isAlphabetic (c : Char) : Bool :=
  if isAscii c then c.isAlpha else inRanges alphabeticRanges c

/-- A number in any of its three categories: decimal digit, letter number, other number. -/
def isNumeric (c : Char) : Bool :=
  if isAscii c then c.isDigit
  else inRanges decimalDigitRanges c || inRanges otherNumberRanges c

/-! ## The characters of identifiers and operators -/

/-- The first character of an identifier is alphabetic or an underscore. -/
def isIdentifierStart (c : Char) : Bool :=
  isAlphabetic c || c == '_'

/-- The later characters of an identifier are alphabetic, numbers, underscores and primes. -/
def isIdentifierChar (c : Char) : Bool :=
  isAlphabetic c || isNumeric c || c == '_' || c == '\''

/-- The characters that operators are runs of. -/
def isOperatorChar (c : Char) : Bool :=
  c == '+' || c == '-' || c == '*' || c == '/' || c == ':' || c == '<' || c == '>' || c == '='
    || c == '!'

/-- Every character that may start an identifier may also continue one. -/
theorem isIdentifierChar_of_isIdentifierStart {c : Char} (h : isIdentifierStart c = true) :
    isIdentifierChar c = true := by
  simp only [isIdentifierStart, isIdentifierChar, Bool.or_eq_true] at h ⊢
  rcases h with h | h
  · exact .inl (.inl (.inl h))
  · exact .inl (.inr h)

end Clausal.Text
