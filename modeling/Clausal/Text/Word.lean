import Clausal.Text.Blank
import Clausal.Text.Character

/-!
# Characters of words

The name in a definition is a run of word characters. Which characters these are is decided by the
library that matches the name and not by the language, and it changes with the version of Unicode
that the library knows. So the class is a parameter. What is documented of it in every version are
the laws below, and results about names assume nothing else of it.
-/

namespace Clausal

/-- A class of word characters. -/
class WordClass where
  /-- Whether a character may stand in a word. -/
  isWordCharacter : Char → Bool

/-- The laws of a class of word characters. -/
class LawfulWordClass [WordClass] : Prop where
  /-- Of the ASCII characters, the letters, the digits and the underscore stand in words. -/
  isWordCharacter_of_isAscii (c : Char) : Text.isAscii c = true →
    WordClass.isWordCharacter c = (c.isAlphanum || c == '_')
  /-- No blank stands in a word. -/
  not_isWordCharacter_of_isBlank (c : Char) : Text.isBlank c = true →
    WordClass.isWordCharacter c = false

/-- The word characters of Unicode 16.0: the alphabetic characters, the marks, the decimal digits,
the connecting punctuation and the joiners. Other numbers than decimal digits are not of this class.
Letters and numbers are those of 17.0: a letter that 17.0 added is alphabetic, and may stand in an
identifier, without being a character of a word. -/
def Text.isUnicodeWord (c : Char) : Bool :=
  if isAscii c then c.isAlphanum || c == '_'
  else !inRanges addedRanges c
    && (inRanges alphabeticRanges c || inRanges markRanges c || inRanges decimalDigitRanges c
      || inRanges connectorRanges c || inRanges joinControlRanges c)

/-- The class that programs run with. -/
instance WordClass.unicode : WordClass where
  isWordCharacter := Text.isUnicodeWord

end Clausal
