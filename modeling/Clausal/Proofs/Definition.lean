import Clausal.Line
import Clausal.Proofs.Token.Lexeme

/-!
# Where a definition is cut

A line is cut at its first token `=`, and the two sides are scanned as texts of their own. Nothing
is disturbed by that: a token does not depend on what follows it, and of what stands before it only
matters whether that is an operand, which `=` is not. The tokens of the line are therefore those of
the left side, the token `=`, and those of the right side where they stand in the line.

Main statements:
* `scanFrom_add`: tokens move with their text;
* `Line.scan_of_splitDefinition?`: the token at which a line is cut;
* `Line.splitDefinition?_exact`: the tokens of a line that is cut.
-/

namespace Clausal

open Text

namespace Token

/-- A token as it stands after so many characters are put in front of its text. -/
def shift (n : Nat) (token : Token) : Token :=
  { token with offset := token.offset + n }

/-- Tokens move with their text. -/
theorem scanFrom_add (n offset : Nat) (afterOperand : Bool) (text : List Char) :
    scanFrom (offset + n) afterOperand text =
      (scanFrom offset afterOperand text).map (shift n) := by
  -- What the scanner does depends on the characters, and never on where they stand.
  fun_induction scanFrom offset afterOperand text with
  | case1 => rw [scanFrom, List.map_nil]
  | case2 offset afterOperand c rest h ih =>
    rw [scanFrom, h, ← ih, Nat.add_right_comm]
  | case3 offset afterOperand c rest kind length h ih =>
    have moved : offset + n + 1 + length = offset + 1 + length + n := by omega
    rw [scanFrom_of_starts (recognize_eq_some_iff.mp h), List.map_cons, ← ih, moved]
    rfl

theorem offset_lt_of_mem_scan {text : List Char} {token : Token} (h : token ∈ scan text) :
    token.offset < text.length := by
  obtain ⟨before, c, rest, _, rfl, hoffset, -⟩ := exists_of_mem_scan h
  rw [hoffset, List.length_append, List.length_cons]
  omega

/-- What is found behind a text is the first of its kind, so nothing of its kind is in the text. -/
theorem not_of_find?_scan_append {p : Token → Bool} {text : List Char} {token : Token}
    {others : List Token} (found : (scan text ++ token :: others).find? p = some token)
    (behind : text.length ≤ token.offset) : ∀ other ∈ scan text, ¬ p other = true := by
  rw [List.find?_append] at found
  cases hfirst : (scan text).find? p with
  | none => exact List.find?_eq_none.mp hfirst
  | some first =>
    -- A token does not stand in front of itself.
    rw [hfirst, Option.some_or, Option.some.injEq] at found
    have inside := offset_lt_of_mem_scan (List.mem_of_find?_eq_some hfirst)
    rw [found] at inside
    exact absurd behind (Nat.not_le.mpr inside)

end Token

namespace Line

open Token

/-- A line is cut at a token that is the character `=` and nothing more. -/
theorem scan_of_splitDefinition? {line left right : List Char}
    (h : splitDefinition? line = some (left, right)) :
    left ++ '=' :: right = line ∧
      (scan line).find? (fun token => token.symbol? == some "=") =
        some ⟨.operator "=", ['='], left.length⟩ ∧
      scan line = scan left ++ ⟨.operator "=", ['='], left.length⟩ ::
        scanFrom (left.length + 1) false right := by
  obtain ⟨token, found, hsides⟩ := Option.map_eq_some_iff.mp h
  obtain ⟨rfl, rfl⟩ := Prod.mk.inj hsides
  have symbol := List.find?_some found
  have hkind := symbol?_eq_some_iff.mp (beq_iff_eq.mp symbol)
  obtain ⟨before, c, rest, length, rfl, hoffset, hlexeme, ⟨_, starts⟩, tokens⟩ :=
    exists_cut_of_mem_scanFrom (List.mem_of_find?_eq_some found)
  rw [Nat.zero_add] at hoffset
  have fits := starts.length_le
  rw [hkind] at starts
  -- An operator token is spelled by its symbol, so the token is one character long.
  have spelled : c :: rest.take length = ['='] := starts.lexeme_of_operator
  obtain ⟨rfl, nothing⟩ := List.cons.inj spelled
  obtain rfl : length = 0 := by
    rw [← List.length_take_of_le fits, nothing, List.length_nil]
  have htoken : token = ⟨.operator "=", ['='], before.length⟩ := by
    rw [← hkind, ← spelled, ← hlexeme, ← hoffset]
  subst htoken
  rw [List.take_left, List.drop_length_add_append]
  exact ⟨rfl, found, tokens⟩

/-- **Cutting a definition in two cuts its tokens in two.**

A line is cut exactly if it has a token `=`. The line is then its left side, the character `=` and
its right side. No token `=` is on the left side, and the tokens of the line are those of the left
side, the token `=`, and those of the right side, moved to where it stands in the line. -/
theorem splitDefinition?_exact (line : List Char) :
    (splitDefinition? line = none ↔ ∀ token ∈ scan line, token.kind ≠ .operator "=") ∧
    ∀ left right, splitDefinition? line = some (left, right) →
      left ++ '=' :: right = line ∧
      (∀ token ∈ scan left, token.kind ≠ .operator "=") ∧
      scan line = scan left ++ ⟨.operator "=", ['='], left.length⟩ ::
        (scan right).map (shift (left.length + 1)) := by
  refine ⟨?uncut, ?cut⟩
  case uncut =>
    rw [splitDefinition?, Option.map_eq_none_iff, List.find?_eq_none]
    simp only [beq_iff_eq, symbol?_eq_some_iff, ne_eq]
  case cut =>
    intro left right h
    obtain ⟨hline, found, tokens⟩ := scan_of_splitDefinition? h
    refine ⟨hline, fun other mem equals => ?_, ?_⟩
    · rw [tokens] at found
      exact not_of_find?_scan_append found (Nat.le_refl _) other mem
        (beq_iff_eq.mpr (symbol?_eq_some_iff.mpr equals))
    · have moved := scanFrom_add (left.length + 1) 0 false right
      rw [Nat.zero_add] at moved
      rw [tokens, moved]
      rfl

/-- A line whose right side starts a bracket that nothing closes, and whose left side has a string
with the character `=` and a character that takes more than one byte. -/
theorem splitDefinition?_exact_open :
    splitDefinition? "é \"=\" = (2 -3".toList = some ("é \"=\" ".toList, " (2 -3".toList) ∧
      scan "é \"=\" = (2 -3".toList = scan "é \"=\" ".toList ++ ⟨.operator "=", ['='], 6⟩ ::
        (scan " (2 -3".toList).map (shift 7) := by
  have cut : splitDefinition? "é \"=\" = (2 -3".toList =
      some ("é \"=\" ".toList, " (2 -3".toList) := by decide +kernel
  exact ⟨cut, ((splitDefinition?_exact _).2 _ _ cut).2.2⟩

end Line

end Clausal
