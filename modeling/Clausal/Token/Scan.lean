import Clausal.Text.Character
import Clausal.Token.Basic

/-!
# Scanning

A text is scanned into tokens from left to right. Scanning never fails: a character that
starts no token is skipped, and a string or a bracket that is never closed runs to the end of
the text.

Main statement: the tokens of a text weigh no more than the text is long, so whoever scans
the inner text of a token again works on less than before.
-/

namespace Clausal.Token

open Text

/-! ## The extent of each kind of token -/

/-- The text of a string after its opening quote. -/
def stringInner (rest : List Char) : List Char :=
  rest.takeWhile (· != '"')

/-- The raw text after an opening bracket, up to the bracket that closes it. `depth` counts
the brackets of the same kind that were opened inside and not closed yet, and brackets inside
strings are text. -/
def bracketInner (opener closer : Char) (depth : Nat) (inString : Bool) :
    List Char → List Char
  | [] => []
  | c :: rest =>
    if inString then c :: bracketInner opener closer depth (c != '"') rest
    else if c = '"' then c :: bracketInner opener closer depth true rest
    else if c = opener then c :: bracketInner opener closer (depth + 1) false rest
    else if c = closer then
      match depth with
      | 0 => []
      | depth + 1 => c :: bracketInner opener closer depth false rest
    else c :: bracketInner opener closer depth false rest

/-- How many characters an inner text takes together with the delimiter after it, if there is
one. -/
def enclosedLength (inner rest : List Char) : Nat :=
  min (inner.length + 1) rest.length

/-- How many characters of the rest continue a numeral: digits, and a point only if a digit
follows it. -/
def numeralLength (rest : List Char) : Nat :=
  let whole := rest.takeWhile Char.isDigit
  match rest.dropWhile Char.isDigit with
  | '.' :: places =>
    let fraction := places.takeWhile Char.isDigit
    if fraction.isEmpty then whole.length else whole.length + 1 + fraction.length
  | _ => whole.length

/-- Whether a numeral starts here. A minus sign before a digit is part of the numeral, but
right after an operand it is the operator. -/
def startsNumeral (afterOperand : Bool) (c : Char) (rest : List Char) : Bool :=
  c.isDigit || (c == '-' && !afterOperand && (rest.head?.any Char.isDigit))

/-- The token that starts with the character `c`, if one does: its kind, and how many
characters of the rest belong to it. -/
def recognize (afterOperand : Bool) (c : Char) (rest : List Char) : Option (Kind × Nat) :=
  if c = '[' then
    let inner := bracketInner '[' ']' 0 false rest
    some (.list inner, enclosedLength inner rest)
  else if c = '(' then
    let inner := bracketInner '(' ')' 0 false rest
    some (.group inner, enclosedLength inner rest)
  else if c = '"' then
    let inner := stringInner rest
    some (.string (String.ofList inner), enclosedLength inner rest)
  else if startsNumeral afterOperand c rest then
    -- Before operators, since a minus sign is an operator character too.
    let length := numeralLength rest
    some (.number (Decimal.read (c :: rest.take length)), length)
  else if isOperatorChar c then
    let run := rest.takeWhile isOperatorChar
    some (.operator (String.ofList (c :: run)), run.length)
  else if isIdentifierStart c then
    let run := rest.takeWhile isIdentifierChar
    some (.identifier (String.ofList (c :: run)), run.length)
  else none

/-! ## Scanning a text -/

/-- The tokens of a text that starts at the given offset. `afterOperand` tells whether the
last token before it is an operand. -/
def scanFrom (offset : Nat) (afterOperand : Bool) : List Char → List Token
  | [] => []
  | c :: rest =>
    match recognize afterOperand c rest with
    -- A skipped character does not come between an operand and a minus sign.
    | none => scanFrom (offset + 1) afterOperand rest
    | some (kind, length) =>
      ⟨kind, c :: rest.take length, offset⟩
        :: scanFrom (offset + 1 + length) kind.isOperand (rest.drop length)
termination_by text => text.length
decreasing_by
  · simp
  · simp only [List.length_cons, List.length_drop]; omega

/-- The tokens of a text. -/
def scan (text : List Char) : List Token :=
  scanFrom 0 false text

/-! ## Lengths and weights -/

theorem length_bracketInner_le (opener closer : Char) (depth : Nat) (inString : Bool)
    (rest : List Char) :
    (bracketInner opener closer depth inString rest).length ≤ rest.length := by
  fun_induction bracketInner opener closer depth inString rest <;> grind

theorem length_stringInner_le (rest : List Char) : (stringInner rest).length ≤ rest.length :=
  (List.takeWhile_prefix _).length_le

theorem numeralLength_le (rest : List Char) : numeralLength rest ≤ rest.length := by
  have split := congrArg List.length
    (List.takeWhile_append_dropWhile (p := Char.isDigit) (l := rest))
  simp only [List.length_append] at split
  unfold numeralLength
  dsimp only
  split
  · rename_i places heq
    have fraction := (List.takeWhile_prefix Char.isDigit (l := places)).length_le
    rw [heq] at split
    simp only [List.length_cons] at split
    split <;> omega
  · omega

theorem length_le_enclosedLength {inner rest : List Char} (h : inner.length ≤ rest.length) :
    inner.length ≤ enclosedLength inner rest := by
  unfold enclosedLength; omega

theorem enclosedLength_le (inner rest : List Char) : enclosedLength inner rest ≤ rest.length := by
  unfold enclosedLength; omega

/-- A token takes no more characters than there are, and weighs no more than it takes. -/
theorem recognize_length {afterOperand : Bool} {c : Char} {rest : List Char} {kind : Kind}
    {length : Nat} (h : recognize afterOperand c rest = some (kind, length)) :
    length ≤ rest.length ∧ kind.weight ≤ length + 1 := by
  have bracket (opener closer : Char) := length_bracketInner_le opener closer 0 false rest
  have run (p : Char → Bool) := (List.takeWhile_prefix p (l := rest)).length_le
  revert h
  -- One case for each kind of token, and no equation for none. Only brackets weigh more than one,
  -- as their inner text is scanned again.
  fun_cases recognize afterOperand c rest <;>
    simp only [Option.some.injEq, Prod.mk.injEq, reduceCtorEq, false_implies] <;>
    rintro ⟨rfl, rfl⟩
  case case1 | case2 =>
    exact ⟨enclosedLength_le _ _, Nat.succ_le_succ (length_le_enclosedLength (bracket _ _))⟩
  case case3 => exact ⟨enclosedLength_le _ _, by simp [Kind.weight]⟩
  case case4 => exact ⟨numeralLength_le rest, by simp [Kind.weight]⟩
  case case5 | case6 => exact ⟨run _, by simp [Kind.weight]⟩

theorem weight_scanFrom_le (offset : Nat) (afterOperand : Bool) (text : List Char) :
    weight (scanFrom offset afterOperand text) ≤ text.length := by
  fun_induction scanFrom offset afterOperand text with
  | case1 => simp
  | case2 offset afterOperand c rest _ ih => simp only [List.length_cons]; omega
  | case3 offset afterOperand c rest kind length h ih =>
    have extent := recognize_length h
    simp only [weight_cons, List.length_cons, List.length_drop] at ih ⊢
    omega

/-- The tokens of a text weigh no more than the text is long. -/
theorem weight_scan_le (text : List Char) : weight (scan text) ≤ text.length :=
  weight_scanFrom_le 0 false text

end Clausal.Token
