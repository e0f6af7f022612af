import Clausal.Proofs.Grammar.Parser
import Clausal.Proofs.Token.Spelling

/-!
# Expressions of a single token

Neither a binary operator nor an application is written in one token, and everything else is.
Constants and variables are thus read from single tokens, and of the texts that start like an
identifier, a text is read as the variable of its own name exactly when it is one identifier and no
spelling of a truth value.

Main statements:
* `Sequence.single`, `Sequence.of_constant`, `Group.of_constant`: what is read from single tokens;
* `Grammar.ofChars_lexeme`: a token is read alike in its text and out of it;
* `Expr.Readable`: the names that stand for variables of the same name;
* `Expr.parse_eq_variable_iff`, `Expr.parse_truthName`: what a name is read as.
-/

namespace Clausal

open Clausal.Expr Clausal.Token Clausal.Text

namespace Grammar

section Single

variable {Operand : Token → Expr → Prop} {ops : List Operator} {tokens : List Token} {expr : Expr}
  {value : Value}

/-- What joins no two expressions and applies no name is derived by a single operand. -/
theorem Sequence.single (h : Sequence Operand ops tokens expr)
    (hbinary : ∀ op left right, expr ≠ .binary op left right)
    (happlication : ∀ name arguments, expr ≠ .application name arguments) :
    ∃ token, tokens = [token] ∧ Operand token expr := by
  induction h with
  | run h =>
    cases h with
    | operand operand => exact ⟨_, rfl, operand⟩
    | application => exact absurd rfl (happlication _ _)
  | tighter _ ih => exact ih hbinary happlication
  | binary => exact absurd rfl (hbinary _ _ _)

/-- Of the sequences, only single operands are constant. -/
theorem Sequence.of_constant (h : Sequence Operand ops tokens expr)
    (hconstant : expr.constant? = some value) :
    ∃ token, tokens = [token] ∧ Operand token expr := by
  refine h.single ?_ ?_
  -- A constant is made of literals and lists, so neither of the two forms has one.
  · rintro op left right rfl
    simp [constant?] at hconstant
  · rintro name arguments rfl
    simp [constant?] at hconstant

/-- Of the groups, only those around a single operand are constant. -/
theorem Group.of_constant (h : Group Operand tokens expr)
    (hconstant : expr.constant? = some value) :
    ∃ token, tokens = [token] ∧ Operand token expr := by
  cases h with
  | parens h => exact h.of_constant hconstant
  -- A section has no constant value.
  | _ => simp [constant?] at hconstant

end Single

/-- A text that is scanned into one token is read as the token is. -/
theorem ofText_iff_of_scan {text : List Char} {token : Token} {expr : Expr}
    (hscan : scan text = [token]) : OfText text expr ↔ Operand token expr := by
  rw [OfText, hscan, sequence_singleton_iff]

/-- What a token is read as depends on its kind alone. -/
theorem ofToken_congr_kind {token other : Token} (same : token.kind = other.kind) :
    Expr.ofToken token = Expr.ofToken other := by
  obtain ⟨kind, lexeme, offset⟩ := token
  subst same
  -- Neither the lexeme nor the place occurs in the equation of the parser.
  rw [Expr.ofToken.eq_def, Expr.ofToken.eq_def other]

/-- A text that is scanned into one token is read as the token is, or refused alike. -/
theorem ofChars_of_scan {text : List Char} {token : Token} (hscan : scan text = [token]) :
    Expr.ofChars text = Expr.ofToken token := by
  rw [Expr.ofChars, hscan, if_neg (by simp), Expr.ofTokens]

/-- **Taken out of its text, a token is read as it is where it stands**, or refused alike. -/
theorem ofChars_lexeme {text : List Char} {token : Token} (mem : token ∈ scan text) :
    Expr.ofChars token.lexeme = Expr.ofToken token := by
  rw [ofChars_of_scan (scan_lexeme mem)]
  exact ofToken_congr_kind rfl

theorem ofChars_lexeme_iff {text : List Char} {token : Token} {expr : Expr}
    (mem : token ∈ scan text) : Expr.ofChars token.lexeme = .ok expr ↔ Operand token expr := by
  rw [ofChars_lexeme mem]
  exact (decides_ofToken token).1 expr

end Grammar

/-! ## Names -/

open Grammar

namespace Expr

/-- A name that stands for the variable of this name wherever an expression has it: all its
characters continue an identifier, and it is no spelling of a truth value. -/
def Readable (name : String) : Prop :=
  (∀ c ∈ name.toList, isIdentifierChar c = true) ∧ truthName? name = none

instance : DecidablePred Readable := fun name =>
  decidable_of_iff (name.toList.all isIdentifierChar = true ∧ truthName? name = none)
    (and_congr_left fun _ => List.all_eq_true)

theorem parse_eq_ok_iff {text : String} {expr : Expr} :
    parse text = .ok expr ↔ OfText text.toList expr :=
  (decides_ofChars text.toList).1 expr

/-- An identifier is scanned into one token. -/
theorem scan_of_isIdentifierChar {name : String} {c : Char} {rest : List Char}
    (hname : name.toList = c :: rest) (start : isIdentifierStart c = true)
    (h : ∀ d ∈ name.toList, isIdentifierChar d = true) :
    scan name.toList = [⟨.identifier name, name.toList, 0⟩] := by
  have spelled := @Spells.identifier c rest start fun d mem =>
    h d (hname ▸ List.mem_cons_of_mem c mem)
  rw [← hname, String.ofList_toList] at spelled
  exact spelled.scan

section Names

variable {name : String} {c : Char} {rest : List Char}

/-- A name that starts like an identifier is read as the variable of this name exactly when it is
readable. -/
theorem parse_eq_variable_iff (hname : name.toList = c :: rest)
    (start : isIdentifierStart c = true) :
    parse name = .ok (.variable name) ↔ Readable name := by
  rw [parse_eq_ok_iff]
  constructor
  · intro h
    -- The scanner takes an identifier from the front, and there is no second token.
    obtain ⟨others, hscan⟩ := scan_identifier start rest
    obtain ⟨token, hsingle, operand⟩ := h.single (by simp) (by simp)
    rw [← hname, hsingle] at hscan
    obtain ⟨rfl, -⟩ := List.cons.inj hscan
    cases operand with
    | @«variable» _ _ hkind plain =>
      have same := congrArg String.toList (Kind.identifier.inj hkind)
      rw [String.toList_ofList, hname] at same
      refine ⟨?_, plain⟩
      rw [hname, ← same, List.forall_mem_cons]
      exact ⟨isIdentifierChar_of_isIdentifierStart start, fun d => List.mem_takeWhile_imp⟩
    -- The token is an identifier and so no group, whatever a group might derive.
    | group hkind => cases hkind
  · rintro ⟨identifier, plain⟩
    rw [ofText_iff_of_scan (scan_of_isIdentifierChar hname start identifier)]
    exact .variable rfl plain

end Names

/-- The spellings of truth values are spelled like names. -/
theorem spells_truthName {name : String} {truth : Bool} (h : truthName? name = some truth) :
    Spells name.toList (.identifier name) := by
  -- There are four of them, and each is scanned as it stands.
  have spelling : name = "True" ∨ name = "true" ∨ name = "False" ∨ name = "false" := by
    unfold truthName? at h
    split at h
    · grind
    · split at h
      · grind
      · contradiction
  rcases spelling with rfl | rfl | rfl | rfl <;>
    exact .identifier (by decide) (List.all_eq_true.mp (by decide))

/-- The spellings of truth values are read as truth values. -/
theorem parse_truthName {name : String} {truth : Bool} (h : truthName? name = some truth) :
    parse name = .ok (.bool truth) := by
  rw [parse_eq_ok_iff, ofText_iff_of_scan (spells_truthName h).scan]
  exact .bool rfl h

end Expr

end Clausal
