/-!
# Reading JSON

A strict reader for JSON texts, as far as settings need it. Of the numbers only the natural
ones are kept, and a string that holds half of a surrogate pair is well formed but has no
text.
-/

namespace Clausal

/-- A JSON value. -/
inductive Json where
  | null
  | bool (value : Bool)
  /-- A number written with digits only. -/
  | natural (value : Nat)
  /-- A number with a sign, a point or an exponent. -/
  | otherNumber
  /-- A string, with its text if it has one. -/
  | string (text : Option String)
  | array (items : List Json)
  | object (members : List (Option String × Json))

namespace Json

/-- What is left of a text after a reader has taken what it reads from the front. -/
abbrev Reader (α : Type) := List Char → Option (α × List Char)

/-- The white space of JSON. -/
def isSpace (c : Char) : Bool :=
  c == ' ' || c == '\t' || c == '\n' || c == '\r'

/-- A text without the white space at its start. -/
def skipSpace (text : List Char) : List Char :=
  text.dropWhile isSpace

/-! ## Strings -/

/-- The value of a digit of base sixteen. -/
def hexValue? (c : Char) : Option Nat :=
  if c.isDigit then some (c.toNat - '0'.toNat)
  else if 'a' ≤ c ∧ c ≤ 'f' then some (c.toNat - 'a'.toNat + 10)
  else if 'A' ≤ c ∧ c ≤ 'F' then some (c.toNat - 'A'.toNat + 10)
  else none

/-- The code written in four digits. -/
def fourDigits? (a b c d : Char) : Option Nat := do
  let high := (← hexValue? a) * 16 + (← hexValue? b)
  let low := (← hexValue? c) * 16 + (← hexValue? d)
  return high * 256 + low

/-- The code of a character that is escaped by one letter. -/
def shortEscape? (c : Char) : Option Nat :=
  match c with
  | '"' | '\\' | '/' => some c.toNat
  | 'b' => some 0x8
  | 'f' => some 0xC
  | 'n' => some 0xA
  | 'r' => some 0xD
  | 't' => some 0x9
  | _ => none

/-- Reads the rest of a string after its opening quote, as codes: one for each character and
for each escape. -/
def readCodes : Reader (List Nat)
  | '"' :: rest => some ([], rest)
  | '\\' :: 'u' :: a :: b :: c :: d :: rest => do
    let code ← fourDigits? a b c d
    let (codes, rest) ← readCodes rest
    return (code :: codes, rest)
  | '\\' :: c :: rest => do
    let code ← shortEscape? c
    let (codes, rest) ← readCodes rest
    return (code :: codes, rest)
  | c :: rest => do
    -- Here a backslash has no escape behind it.
    if c = '\\' ∨ c.toNat < 0x20 then none
    let (codes, rest) ← readCodes rest
    return (c.toNat :: codes, rest)
  | [] => none

/-- The characters that codes stand for, two halves of a surrogate pair making one. Half a
pair on its own stands for nothing. -/
def charactersOf? : List Nat → Option (List Char)
  | [] => some []
  | high :: low :: codes =>
    -- The first half of a pair needs the second half right behind it.
    if 0xD800 ≤ high ∧ high < 0xDC00 then
      if 0xDC00 ≤ low ∧ low < 0xE000 then
        (charactersOf? codes).map
          (Char.ofNat (0x10000 + (high - 0xD800) * 0x400 + (low - 0xDC00)) :: ·)
      else none
    else if 0xDC00 ≤ high ∧ high < 0xE000 then none
    else (charactersOf? (low :: codes)).map (Char.ofNat high :: ·)
  | [code] => if 0xD800 ≤ code ∧ code < 0xE000 then none else some [Char.ofNat code]

/-- Reads the rest of a string after its opening quote. -/
def readString : Reader (Option String) := fun text =>
  (readCodes text).map fun (codes, rest) => ((charactersOf? codes).map String.ofList, rest)

/-! ## Numbers -/

/-- What is left after at least one digit. -/
def skipDigits? (text : List Char) : Option (List Char) :=
  if (text.takeWhile Char.isDigit).isEmpty then none else some (text.dropWhile Char.isDigit)

/-- What is left after the point and the places of a number, if it has them. -/
def skipFraction? : List Char → Option (List Char)
  | '.' :: rest => skipDigits? rest
  | text => some text

/-- What is left after the exponent of a number, if it has one. -/
def skipExponent? : List Char → Option (List Char)
  | c :: rest =>
    if c = 'e' ∨ c = 'E' then
      match rest with
      | '+' :: rest => skipDigits? rest
      | '-' :: rest => skipDigits? rest
      | _ => skipDigits? rest
    else some (c :: rest)
  | [] => some []

/-- Reads a number. Only a lone zero may start with a zero. -/
def readNumber : Reader Json := fun text => do
  let unsigned := if text.head? = some '-' then text.drop 1 else text
  let digits := unsigned.takeWhile Char.isDigit
  let afterDigits ← skipDigits? unsigned
  if digits.head? = some '0' ∧ digits.length ≠ 1 then none
  let rest ← skipExponent? (← skipFraction? afterDigits)
  -- Nothing behind the digits and no sign before them.
  let isNatural := text.head? ≠ some '-' ∧ rest.length = afterDigits.length
  return (if isNatural then .natural (Nat.ofDigitChars 10 digits 0) else .otherNumber, rest)

/-! ## Values -/

mutual

/-- Reads a value. The fuel bounds how many readers may be under way at once. -/
def readValue : Nat → Reader Json
  | 0, _ => none
  | fuel + 1, text =>
    match skipSpace text with
    | 'n' :: 'u' :: 'l' :: 'l' :: rest => some (.null, rest)
    | 't' :: 'r' :: 'u' :: 'e' :: rest => some (.bool true, rest)
    | 'f' :: 'a' :: 'l' :: 's' :: 'e' :: rest => some (.bool false, rest)
    | '"' :: rest => (readString rest).map fun (text, rest) => (.string text, rest)
    | '[' :: rest =>
      match skipSpace rest with
      | ']' :: rest => some (.array [], rest)
      | _ => (readItems fuel rest).map fun (items, rest) => (.array items, rest)
    | '\x7b' :: rest =>
      match skipSpace rest with
      | '\x7d' :: rest => some (.object [], rest)
      | _ => (readMembers fuel rest).map fun (members, rest) => (.object members, rest)
    | text => readNumber text

/-- Reads at least one item of an array, and the closing bracket. -/
def readItems : Nat → Reader (List Json)
  | 0, _ => none
  | fuel + 1, text => do
    let (item, rest) ← readValue fuel text
    match skipSpace rest with
    | ']' :: rest => return ([item], rest)
    | ',' :: rest => do
      let (items, rest) ← readItems fuel rest
      return (item :: items, rest)
    | _ => none

/-- Reads at least one member of an object, and the closing brace. -/
def readMembers : Nat → Reader (List (Option String × Json))
  | 0, _ => none
  | fuel + 1, text =>
    match skipSpace text with
    | '"' :: rest => do
      let (key, rest) ← readString rest
      match skipSpace rest with
      | ':' :: rest => do
        let (value, rest) ← readValue fuel rest
        match skipSpace rest with
        | '\x7d' :: rest => return ([(key, value)], rest)
        | ',' :: rest => do
          let (members, rest) ← readMembers fuel rest
          return ((key, value) :: members, rest)
        | _ => none
      | _ => none
    | _ => none

end

/-- Reads a text that is one JSON value. Of the readers under way at once no more than two
wait for the same character, so twice the length is fuel enough. -/
def parse? (text : String) : Option Json := do
  let (value, rest) ← readValue (2 * text.length + 2) text.toList
  if (skipSpace rest).isEmpty then some value else none

end Json

end Clausal
