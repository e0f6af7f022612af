import Clausal.Proofs.Matching.Constants

/-!
# Patterns read from lexemes

A token that takes no value apart has to be a constant. Which constant it is, is read from its
lexeme alone, as from a text of its own. Nothing of the text around it is missed there: scanned
alone, the lexeme is that token again.

Main statements:
* `Pattern.parseAll_lexeme`: a token is the same pattern in its text and out of it;
* `Pattern.lexeme_exact`: what a lexeme is scanned into and read as.
-/

namespace Clausal.Pattern

open Clausal.Expr Clausal.Token Clausal.Grammar

section Lexeme

variable {text : List Char} {token : Token} {pattern : Pattern} {error : Error}

/-- The lexeme of a token is a literal exactly if the token derives a constant. -/
theorem literalOf_lexeme_eq_ok_iff (mem : token ∈ scan text) :
    literalOf token.lexeme = .ok pattern ↔ ∃ expr constant, Operand token expr ∧
      expr.constant? = some constant ∧ pattern = .literal constant := by
  simp only [literalOf_eq_ok_iff, ofChars_lexeme_iff mem]

/-- A lexeme that is no literal is refused as its token is, or as no constant. -/
theorem literalOf_lexeme_eq_error_iff (mem : token ∈ scan text) :
    literalOf token.lexeme = .error error ↔ Expr.ofToken token = .error error ∨
      ∃ expr, Operand token expr ∧ expr.constant? = none ∧
        error = .unparseable (String.ofList token.lexeme) := by
  rw [literalOf_eq_error_iff, ofChars_lexeme mem]
  simp only [(decides_ofToken token).1]

/-- As a parameter text of its own, a lexeme is the one pattern that its token is. -/
theorem parseAll_lexeme (mem : token ∈ scan text) :
    parseAll token.lexeme = (ofToken token).map fun pattern => [pattern] := by
  -- The pattern of a token does not depend on its place.
  have same : ofToken ⟨token.kind, token.lexeme, 0⟩ = ofToken token := rfl
  rw [parseAll, scan_lexeme mem, List.mapM_cons, List.mapM_nil, same]
  cases ofToken token <;> rfl

/-- **A token is the same out of its text.**

The lexemes of tokens are the texts that are spelled out or left open. Scanned alone, the lexeme of
a token is that token and nothing else, whatever stood before it and behind it. So what is read from
the lexeme is what the token is: a literal exactly if the token derives a constant, the refusal of
the token otherwise, and as a parameter text the one pattern of the token. -/
theorem lexeme_exact :
    (∀ lexeme kind, (∃ text offset, ⟨kind, lexeme, offset⟩ ∈ scan text) ↔
      Spells lexeme kind ∨ Unclosed lexeme kind) ∧
    ∀ text, ∀ token ∈ scan text,
      scan token.lexeme = [⟨token.kind, token.lexeme, 0⟩] ∧
      (∀ pattern, literalOf token.lexeme = .ok pattern ↔ ∃ expr constant, Operand token expr ∧
        expr.constant? = some constant ∧ pattern = .literal constant) ∧
      (∀ error, literalOf token.lexeme = .error error ↔ Expr.ofToken token = .error error ∨
        ∃ expr, Operand token expr ∧ expr.constant? = none ∧
          error = .unparseable (String.ofList token.lexeme)) ∧
      parseAll token.lexeme = (ofToken token).map fun pattern => [pattern] := by
  refine ⟨fun lexeme kind => exists_mem_scan_iff, fun text token mem => ⟨scan_lexeme mem, ?_⟩⟩
  exact ⟨fun pattern => literalOf_lexeme_eq_ok_iff mem,
    fun error => literalOf_lexeme_eq_error_iff mem, parseAll_lexeme mem⟩

end Lexeme

/-- A number with a sign, behind an operator and in front of a point that does not belong to it. -/
def signedNumber : Token where
  kind := .number (Decimal.read "-1.5".toList)
  lexeme := "-1.5".toList
  offset := 4

/-- A list at the end of a text. The bracket behind it stands in a string that nothing closes. -/
def openList : Token where
  kind := .list "True, \"]".toList
  lexeme := "[True, \"]".toList
  offset := 10

/-- A sign stays a sign without the operator in front of it, and what is left open in a text is left
open out of it. -/
theorem lexeme_exact_openList :
    signedNumber ∈ scan "2 * -1.5. [True, \"]".toList ∧
    openList ∈ scan "2 * -1.5. [True, \"]".toList ∧
    scan signedNumber.lexeme = [⟨signedNumber.kind, signedNumber.lexeme, 0⟩] ∧
    scan openList.lexeme = [⟨openList.kind, openList.lexeme, 0⟩] ∧
    literalOf openList.lexeme = .ok (.literal (.list [.bool true, .string "]"])) := by
  have signed : signedNumber ∈ scan "2 * -1.5. [True, \"]".toList := by decide +kernel
  have unclosed : openList ∈ scan "2 * -1.5. [True, \"]".toList := by decide +kernel
  have truth : scan "True".toList = [⟨.identifier "True", "True".toList, 0⟩] := by decide +kernel
  have string : scan "\"]".toList = [⟨.string "]", "\"]".toList, 0⟩] := by decide +kernel
  have listItems : items "True, \"]".toList = ["True".toList, "\"]".toList] := by decide +kernel
  -- The bracket in the string is not the partner, so both items are inside of the list.
  have operand : Operand openList (.list [.bool true, .string "]"]) := by
    refine .list rfl (listItems ▸ .cons ?_ (.cons ?_ .nil))
    · exact (ofText_iff_of_scan truth).mpr (.bool rfl rfl)
    · exact (ofText_iff_of_scan string).mpr (.string rfl)
  obtain ⟨alone, -⟩ := lexeme_exact.2 _ _ signed
  obtain ⟨aloneList, literal, -⟩ := lexeme_exact.2 _ _ unclosed
  exact ⟨signed, unclosed, alone, aloneList, (literal _).mpr ⟨_, _, operand, rfl, rfl⟩⟩

end Clausal.Pattern
