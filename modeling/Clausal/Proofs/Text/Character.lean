import Clausal.Line

/-!
# How the classes of characters lie to each other

A definition begins with word characters, an expression refers to it by identifier characters.
Of ASCII the two classes have the same characters, and neither has a blank, whichever lawful class
of word characters a program runs with. A character that starts an identifier starts nothing else.

Facts about ASCII characters are checked character by character, and so are those about blanks, of
which there are few.
-/

namespace Clausal.Text

/-! ## ASCII characters -/

/-- What holds of the first 128 characters holds of all ASCII characters. -/
theorem forall_isAscii {p : Char → Bool} (h : ∀ n < 128, p (Char.ofNat n) = true) {c : Char}
    (hc : isAscii c = true) : p c = true := by
  have hp := h c.toNat (by simpa [isAscii] using hc)
  rwa [Char.ofNat_toNat] at hp

/-- One class lies in another on ASCII characters, if it does on the first 128. -/
theorem of_isAscii {p q : Char → Bool}
    (h : ∀ n < 128, (!p (Char.ofNat n) || q (Char.ofNat n)) = true) {c : Char}
    (hc : isAscii c = true) (hp : p c = true) : q c = true := by
  -- The implication is a property of one character, so it is checked like any other.
  have himp := forall_isAscii (p := fun c => !p c || q c) h hc
  simpa [hp] using himp

theorem isAscii_of_isDigit {c : Char} (h : c.isDigit = true) : isAscii c = true := by
  simp only [Char.isDigit, Bool.and_eq_true, decide_eq_true_eq, UInt32.le_iff_toNat_le] at h
  have hle : c.toNat ≤ 57 := h.2
  unfold isAscii
  rw [decide_eq_true_eq]
  omega

theorem isAscii_of_isOperatorChar {c : Char} (h : isOperatorChar c = true) : isAscii c = true := by
  simp only [isOperatorChar, Bool.or_eq_true, beq_iff_eq, or_assoc] at h
  rcases h with rfl | rfl | rfl | rfl | rfl | rfl | rfl | rfl | rfl <;> rfl

theorem isAscii_of_isHeadStart {c : Char} (h : Line.isHeadStart c = true) : isAscii c = true := by
  -- The letters of ASCII end at 122, and the underscore stands among them.
  delta Line.isHeadStart Char.isAlpha Char.isUpper Char.isLower at h
  simp only [Bool.or_eq_true, Bool.and_eq_true, decide_eq_true_eq, beq_iff_eq,
    UInt32.le_iff_toNat_le] at h
  unfold isAscii
  rw [decide_eq_true_eq]
  rcases h with (⟨-, upper⟩ | ⟨-, lower⟩) | rfl
  · have hle : c.toNat ≤ 90 := upper
    omega
  · have hle : c.toNat ≤ 122 := lower
    omega
  · decide

/-- Of ASCII characters, those that continue the name in a definition are those that continue an
identifier. -/
theorem isHeadChar_eq_isIdentifierChar [WordClass] [LawfulWordClass] {c : Char}
    (h : isAscii c = true) : Line.isHeadChar c = isIdentifierChar c := by
  have hsame := forall_isAscii
    (p := fun c => (c.isAlphanum || c == '_' || c == '\'') == isIdentifierChar c) (by decide) h
  rw [Line.isHeadChar, LawfulWordClass.isWordCharacter_of_isAscii c h]
  exact beq_iff_eq.mp hsame

/-- The name in a definition starts like an identifier. -/
theorem isIdentifierStart_of_isHeadStart {c : Char} (h : Line.isHeadStart c = true) :
    isIdentifierStart c = true :=
  of_isAscii (by decide) (isAscii_of_isHeadStart h) h

/-! ## Identifiers -/

/-- An identifier starts with no digit. -/
theorem not_isDigit_of_isIdentifierStart {c : Char} (h : isIdentifierStart c = true) :
    c.isDigit = false := by
  rw [← Bool.not_eq_true]
  intro digit
  have hnot := of_isAscii (q := fun c => !isIdentifierStart c) (by decide)
    (isAscii_of_isDigit digit) digit
  simp [h] at hnot

/-- An identifier starts with no operator. -/
theorem not_isOperatorChar_of_isIdentifierStart {c : Char} (h : isIdentifierStart c = true) :
    isOperatorChar c = false := by
  rw [← Bool.not_eq_true]
  intro operator
  have hnot := of_isAscii (q := fun c => !isIdentifierStart c) (by decide)
    (isAscii_of_isOperatorChar operator) operator
  simp [h] at hnot

/-- No operator is a digit. -/
theorem not_isDigit_of_isOperatorChar {c : Char} (h : isOperatorChar c = true) :
    c.isDigit = false := by
  have hnot := of_isAscii (q := fun c => !c.isDigit) (by decide) (isAscii_of_isOperatorChar h) h
  simpa using hnot

/-- A digit may stand in an identifier. -/
theorem isIdentifierChar_of_isDigit {c : Char} (h : c.isDigit = true) :
    isIdentifierChar c = true :=
  of_isAscii (by decide) (isAscii_of_isDigit h) h

/-- No operator stands in an identifier. -/
theorem not_isIdentifierChar_of_isOperatorChar {c : Char} (h : isOperatorChar c = true) :
    isIdentifierChar c = false := by
  have hnot := of_isAscii (q := fun c => !isIdentifierChar c) (by decide)
    (isAscii_of_isOperatorChar h) h
  simpa using hnot

/-! ## Blanks -/

/-- Whether the ranges of two tables lie apart. -/
def apart (ranges others : List (Nat × Nat)) : Bool :=
  ranges.all fun range => others.all fun other => range.2 < other.1 || other.2 < range.1

theorem not_inRanges_of_apart {ranges others : List (Nat × Nat)} (h : apart ranges others = true)
    {c : Char} (hc : inRanges ranges c = true) : inRanges others c = false := by
  simp only [apart, List.all_eq_true, Bool.or_eq_true, decide_eq_true_eq] at h
  simp only [inRanges, List.any_eq_true, Bool.and_eq_true, decide_eq_true_eq] at hc
  obtain ⟨range, mem, low, high⟩ := hc
  simp only [inRanges, List.any_eq_false, Bool.and_eq_true, decide_eq_true_eq]
  intro other mem' inside
  -- A character in both ranges would lie on the wrong side of one of them.
  have := h range mem other mem'
  omega

/-- The blanks beyond ASCII. -/
def wideBlankRanges : List (Nat × Nat) :=
  [(0x85, 0x85), (0xA0, 0xA0), (0x1680, 0x1680), (0x2000, 0x200A), (0x2028, 0x2029),
    (0x202F, 0x202F), (0x205F, 0x205F), (0x3000, 0x3000)]

theorem inRanges_wideBlankRanges {c : Char} (h : isBlank c = true) (wide : isAscii c = false) :
    inRanges wideBlankRanges c = true := by
  simp only [isBlank, Bool.or_eq_true, Bool.and_eq_true, decide_eq_true_eq, beq_iff_eq] at h
  simp only [isAscii, decide_eq_false_iff_not] at wide
  simp only [inRanges, wideBlankRanges, List.any_cons, List.any_nil, Bool.or_false,
    Bool.or_eq_true, Bool.and_eq_true, decide_eq_true_eq]
  omega

/-- No blank is a letter or a digit. -/
theorem not_inRanges_of_isBlank {c : Char} (h : isBlank c = true) (wide : isAscii c = false) :
    inRanges alphabeticRanges c = false ∧ inRanges decimalDigitRanges c = false :=
  ⟨not_inRanges_of_apart (by decide +kernel) (inRanges_wideBlankRanges h wide),
    not_inRanges_of_apart (by decide +kernel) (inRanges_wideBlankRanges h wide)⟩

/-- No blank continues the name in a definition. -/
theorem not_isHeadChar_of_isBlank [WordClass] [LawfulWordClass] {c : Char}
    (h : isBlank c = true) : Line.isHeadChar c = false := by
  have hprime : c ≠ '\'' := by
    rintro rfl
    exact absurd h (by decide)
  simp [Line.isHeadChar, LawfulWordClass.not_isWordCharacter_of_isBlank c h, hprime]

/-- No blank stands in an identifier. -/
theorem not_isIdentifierChar_of_isBlank {c : Char} (h : isBlank c = true) :
    isIdentifierChar c = false := by
  -- ASCII is checked, and beyond it the tables have no blank.
  cases hascii : isAscii c with
  | true =>
    have hnot := of_isAscii (q := fun c => !isIdentifierChar c) (by decide) hascii h
    simpa using hnot
  | false =>
    have hmark : c ≠ '_' ∧ c ≠ '\'' := by
      constructor <;> (rintro rfl; simp [isAscii] at hascii)
    obtain ⟨alphabetic, digit⟩ := not_inRanges_of_isBlank h hascii
    have number : inRanges otherNumberRanges c = false :=
      not_inRanges_of_apart (by decide +kernel) (inRanges_wideBlankRanges h hascii)
    simp [isIdentifierChar, isAlphabetic, isNumeric, hascii, alphabetic, digit, number, hmark]

/-! ## Words -/

/-- The word characters of Unicode 16.0 obey the laws of a class of word characters. -/
instance lawfulWordClass_unicode : LawfulWordClass where
  isWordCharacter_of_isAscii c h := by
    change isUnicodeWord c = _
    simp only [isUnicodeWord, h, if_true]
  not_isWordCharacter_of_isBlank c h := by
    change isUnicodeWord c = false
    cases hascii : isAscii c with
    | true =>
      have hnot := of_isAscii (q := fun c => !isUnicodeWord c) (by decide) hascii h
      simpa using hnot
    | false =>
      have hwide := inRanges_wideBlankRanges h hascii
      -- Of the tables that make up words, none has a blank.
      obtain ⟨alphabetic, digit⟩ := not_inRanges_of_isBlank h hascii
      have mark : inRanges markRanges c = false := not_inRanges_of_apart (by decide +kernel) hwide
      have connector : inRanges connectorRanges c = false :=
        not_inRanges_of_apart (by decide) hwide
      have joiner : inRanges joinControlRanges c = false :=
        not_inRanges_of_apart (by decide) hwide
      simp [isUnicodeWord, hascii, alphabetic, mark, digit, connector, joiner]

end Clausal.Text
