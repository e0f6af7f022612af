import Clausal.Proofs.Text.Layout
import Clausal.Proofs.Token.Spelling

/-!
# Layout between tokens

Texts that differ in nothing but their layout are scanned into the same tokens, but for the layout
inside of brackets, and cut into the same items, but for the layout inside of these. All of
scanning, enclosing and cutting agree with the layout on where the strings of a text are.

Main statements:
* `Token.Alike`: tokens that differ in nothing but the layout inside of brackets;
* `Respaced.bracketInner`: what a bracket encloses, and what follows it;
* `Respaced.scan`: the tokens of a text;
* `Respaced.items`: the items of a list.
-/

namespace Clausal

open Text Token

/-- What differs in nothing but the layout inside of brackets. -/
inductive Token.Kind.Alike : Kind → Kind → Prop where
  | refl (kind : Kind) : Alike kind kind
  | list {inner other : List Char} : Respaced inner other → Alike (.list inner) (.list other)
  | group {inner other : List Char} : Respaced inner other → Alike (.group inner) (.group other)

/-- Where the tokens stand makes no difference. -/
def Token.Alike (token other : Token) : Prop :=
  token.kind.Alike other.kind

theorem Token.Kind.Alike.symbol?_eq {kind other : Kind} (h : kind.Alike other) :
    other.symbol? = kind.symbol? := by
  cases h <;> rfl

theorem Token.Kind.Alike.isOperand_eq {kind other : Kind} (h : kind.Alike other) :
    other.isOperand = kind.isOperand := by
  cases h <;> rfl

namespace Text

section Layout

variable {c : Char} {run text other front otherFront inner otherInner : List Char}
  {afterOperand : Bool} {kind : Kind} {length : Nat}

/-- Layout is neither a delimiter nor a comma. -/
theorem IsRun.plain (h : IsRun run) : ∀ c ∈ run, Plain [.list, .group] c ∧ c ∉ [','] :=
  fun c mem => plain_of_isBlank (h.isBlank c mem)

/-- No token starts with layout. -/
theorem IsRun.scanFrom (h : IsRun run) (offset : Nat) (text : List Char) :
    scanFrom offset afterOperand (run ++ text) =
      scanFrom (offset + run.length) afterOperand text :=
  scanFrom_skip_append fun c mem => not_of_isLayout (by decide) (h.layout c mem)

/-! ## What a bracket encloses -/

/-- `Enclosed text other inner otherInner`: what is enclosed at the start of the one text and of the
other differs in nothing but its layout, and so does what follows the delimiters. -/
structure Enclosed (text other inner otherInner : List Char) : Prop where
  same : Respaced inner otherInner
  after : Respaced (text.drop (enclosedLength inner text))
    (other.drop (enclosedLength otherInner other))

/-- What is passed over is enclosed too. -/
theorem Enclosed.append (h : Enclosed text other inner otherInner)
    (pass : ∀ {text other}, Respaced text other → Respaced (front ++ text) (otherFront ++ other)) :
    Enclosed (front ++ text) (otherFront ++ other) (front ++ inner) (otherFront ++ otherInner) := by
  -- Seen from behind what is passed over, the delimiter ends where it did before.
  have drop (front inner rest : List Char) :
      (front ++ rest).drop (enclosedLength (front ++ inner) (front ++ rest)) =
        rest.drop (enclosedLength inner rest) := by
    have length : enclosedLength (front ++ inner) (front ++ rest) =
        front.length + enclosedLength inner rest := by
      simp only [enclosedLength, List.length_append]
      omega
    rw [length, List.drop_length_add_append]
  refine ⟨pass h.same, ?_⟩
  rw [drop, drop]
  exact h.after

/-- A delimiter ends what is enclosed. -/
theorem Enclosed.nil (h : Respaced text other) (closer : Char) :
    Enclosed (closer :: text) (closer :: other) [] [] := by
  refine ⟨.nil, ?_⟩
  have one (rest : List Char) : enclosedLength [] (closer :: rest) = 1 := by
    simp [enclosedLength]
  rwa [one, one]

/-- A text without a delimiter is enclosed as a whole. -/
theorem Enclosed.whole (h : Respaced text other) : Enclosed text other text other := by
  refine ⟨h, ?_⟩
  rw [enclosedLength_self, enclosedLength_self, List.drop_length, List.drop_length]
  exact .nil

/-- **A bracket encloses what differs in nothing but its layout.** -/
theorem Respaced.bracketInner (h : Respaced text other) (bracket : Bracket) (depth : Nat) :
    Enclosed text other (bracketInner bracket.opener bracket.closer depth false text)
      (bracketInner bracket.opener bracket.closer depth false other) := by
  induction h generalizing depth with
  | nil => exact .whole .nil
  | @char c text other visible noQuote h ih =>
    have pass {text other : List Char} (h : Respaced text other) :
        Respaced ([c] ++ text) ([c] ++ other) := .char visible noQuote h
    -- The depth changes with each bracket of the kind that is counted, in both texts alike.
    by_cases opens : c = bracket.opener
    · subst opens
      rw [bracketInner_opener, bracketInner_opener]
      exact (ih (depth + 1)).append pass
    by_cases closes : c = bracket.closer
    · subst closes
      cases depth with
      | zero =>
        rw [bracketInner_zero_closer, bracketInner_zero_closer]
        exact .nil h _
      | succ depth =>
        rw [bracketInner_closer, bracketInner_closer]
        exact (ih depth).append pass
    · -- Brackets of the other kind are passed over like any other character.
      have plain : Plain [bracket] c := by simp [Plain, noQuote, opens, closes]
      rw [bracketInner_plain plain, bracketInner_plain plain]
      exact (ih depth).append pass
  | layout run otherRun _ ih =>
    have nested {run : List Char} (hrun : IsRun run) : Nested [bracket] [] run :=
      (Nested.of_plain hrun.plain).single bracket
    rw [bracketInner_append (nested run), bracketInner_append (nested otherRun)]
    exact (ih depth).append (.layout run otherRun)
  -- A closed string is nested, so it is passed over as a whole.
  | @string inside text other closed _ ih =>
    have nested : Nested [bracket] [] ('"' :: inside ++ ['"']) := .of_string closed
    have pass {text other : List Char} (h : Respaced text other) :
        Respaced ('"' :: inside ++ ['"'] ++ text) ('"' :: inside ++ ['"'] ++ other) := by
      simpa using Respaced.string closed h
    have h := (ih depth).append pass
    rw [← bracketInner_append nested, ← bracketInner_append nested] at h
    simpa using h
  | openString closed =>
    rw [bracketInner_quote, bracketInner_openString closed]
    exact .whole (.openString closed)

/-! ## The tokens of a text -/

/-- A point starts a fraction alike in both texts. -/
theorem Respaced.fractionLength_eq (h : Respaced text other) :
    fractionLength other = fractionLength text := by
  have nothing {c : Char} (hc : c ≠ '.') (rest : List Char) : fractionLength (c :: rest) = 0 := by
    rw [fractionLength, if_neg fun point => hc point.1]
  cases h with
  | nil => rfl
  | char _ _ h => rw [fractionLength, fractionLength, (h.span (by decide)).1]
  | layout run otherRun =>
    have noPoint {c : Char} (h : isLayout c = true) : c ≠ '.' := by
      rintro rfl
      contradiction
    obtain ⟨c, rest, rfl, space⟩ := run.exists_cons
    obtain ⟨d, others, rfl, otherSpace⟩ := otherRun.exists_cons
    rw [List.cons_append, List.cons_append, nothing (noPoint space), nothing (noPoint otherSpace)]
  | string | openString => rfl

/-- A numeral takes the same characters in both texts. -/
theorem Respaced.numeral (h : Respaced text other) :
    numeralLength other = numeralLength text ∧
      other.take (numeralLength text) = text.take (numeralLength text) ∧
      Respaced (text.drop (numeralLength text)) (other.drop (numeralLength text)) := by
  -- Digits are not layout, so both texts have the same digits, and the same behind them.
  obtain ⟨whole, fraction⟩ := h.span (p := Char.isDigit) (by decide)
  refine ⟨by rw [numeralLength_eq, numeralLength_eq, whole, fraction.fractionLength_eq],
    h.take fun c mem => ?_⟩
  rcases (take_numeralLength text).isDigit_or c mem with digit | rfl
  · have visible := of_isAscii (q := fun c => !isLayout c && c != '"') (by decide)
      (isAscii_of_isDigit digit) digit
    simpa using visible
  · decide

/-- **The same token starts in both texts**, but for the layout in brackets, and what follows it
differs in nothing but its layout. -/
theorem Respaced.starts (h : Respaced text other) (noQuote : c ≠ '"')
    (starts : Starts afterOperand c text kind length) :
    ∃ otherKind otherLength, Starts afterOperand c other otherKind otherLength ∧
      kind.Alike otherKind ∧ Respaced (text.drop length) (other.drop otherLength) := by
  -- Whether a minus sign begins a numeral is decided by the next character, which may be layout.
  have numeral : startsNumeral afterOperand c other = startsNumeral afterOperand c text := by
    rw [startsNumeral, startsNumeral, h.head?_any (by decide)]
  cases starts with
  | list =>
    obtain ⟨inner, after⟩ := h.bracketInner .list 0
    exact ⟨_, _, .list other, .list inner, after⟩
  | group =>
    obtain ⟨inner, after⟩ := h.bracketInner .group 0
    exact ⟨_, _, .group other, .group inner, after⟩
  | string => contradiction
  | number hc =>
    obtain ⟨length, same, after⟩ := h.numeral
    refine ⟨_, _, .number (numeral.trans hc), ?_, ?_⟩
    · rw [length, same]
      exact .refl _
    · rwa [length]
  | operator hn hc =>
    obtain ⟨same, after⟩ := h.span (p := isOperatorChar) (by decide)
    refine ⟨_, _, .operator (numeral.trans hn) hc, ?_, ?_⟩
    · rw [same]
      exact .refl _
    · rwa [drop_run, drop_run]
  | identifier _ hc =>
    obtain ⟨same, after⟩ := h.span (p := isIdentifierChar) (by decide)
    refine ⟨_, _, .identifier other hc, ?_, ?_⟩
    · rw [same]
      exact .refl _
    · rwa [drop_run, drop_run]

/-- **The tokens of the two texts are the same**, but for their places and the layout in
brackets. -/
theorem Respaced.scanFrom (h : Respaced text other) (offset otherOffset : Nat)
    (afterOperand : Bool) :
    List.Forall₂ Token.Alike
      (Token.scanFrom offset afterOperand text)
      (Token.scanFrom otherOffset afterOperand other) := by
  -- By induction on the length, since a token takes more than its first character.
  induction size : text.length using Nat.strong_induction_on
    generalizing text other offset otherOffset afterOperand with
  | _ n ih =>
    subst size
    cases h with
    | nil => simp [Token.scanFrom]
    | @char c text other visible noQuote h =>
      cases hc : startsToken c with
      | false =>
        rw [scanFrom_skip hc, scanFrom_skip hc]
        exact ih _ (by simp) h _ _ _ rfl
      | true =>
        obtain ⟨kind, length, starts⟩ := exists_starts_iff.mpr hc
        obtain ⟨otherKind, otherLength, otherStarts, alike, after⟩ := h.starts noQuote starts
        rw [scanFrom_of_starts starts, scanFrom_of_starts otherStarts, ← alike.isOperand_eq]
        refine .cons alike (ih _ ?_ after _ _ _ rfl)
        rw [List.length_drop, List.length_cons]
        omega
    -- The two runs are skipped, and need not be of one length.
    | layout run otherRun h =>
      rw [run.scanFrom, otherRun.scanFrom]
      refine ih _ ?_ h _ _ _ rfl
      simp [List.length_pos_iff.mpr run.nonempty]
    | string closed h =>
      rw [scanFrom_string closed, scanFrom_string closed]
      refine .cons (.refl _) (ih _ ?_ h _ _ _ rfl)
      rw [List.length_append, List.length_cons, List.length_cons]
      omega
    | openString closed =>
      rw [(Unclosed.string closed).scanFrom, (Unclosed.string closed).scanFrom]
      exact .cons (.refl _) .nil

theorem Respaced.scan (h : Respaced text other) :
    List.Forall₂ Token.Alike (scan text) (scan other) :=
  h.scanFrom 0 0 false

/-! ## The items of a list -/

/-- Pieces that differ in nothing but their layout, lengthened at the front. -/
theorem forall₂_foldr_prepend {pieceList others : List (List Char)}
    (h : List.Forall₂ Respaced pieceList others) (nonempty : pieceList ≠ [])
    (pass : ∀ {text other}, Respaced text other → Respaced (front ++ text) (otherFront ++ other)) :
    List.Forall₂ Respaced (front.foldr prepend pieceList) (otherFront.foldr prepend others) := by
  cases h with
  | nil => contradiction
  | cons first others =>
    rw [foldr_prepend, foldr_prepend]
    exact .cons (pass first) others

theorem Respaced.pieces (h : Respaced text other) (depth : Int) :
    List.Forall₂ Respaced (pieces depth false text) (pieces depth false other) := by
  -- There is always a first piece, and it is the one that is lengthened.
  have nonempty (depth : Int) (text : List Char) : Token.pieces depth false text ≠ [] :=
    (itemsLength_pieces depth false text).1
  induction h generalizing depth with
  | nil => exact .cons .nil .nil
  | @char c text other visible noQuote h ih =>
    by_cases comma : c = ',' ∧ depth = 0
    · obtain ⟨rfl, rfl⟩ := comma
      rw [pieces_comma, pieces_comma]
      exact .cons .nil (ih 0)
    · -- A bracket changes the depth in both texts alike.
      have step (rest : List Char) : Token.pieces depth false (c :: rest) =
          [c].foldr prepend (Token.pieces (depth + depthChange c) false rest) := by
        rw [Token.pieces, if_neg noQuote, if_neg Bool.false_ne_true, if_neg comma]
        rfl
      rw [step, step]
      exact forall₂_foldr_prepend (ih _) (nonempty _ _) (.char visible noQuote)
  | layout run otherRun _ ih =>
    rw [pieces_plain_append run.plain, pieces_plain_append otherRun.plain]
    exact forall₂_foldr_prepend (ih depth) (nonempty _ _) (.layout run otherRun)
  | string closed _ ih =>
    rw [pieces_closedString closed, pieces_closedString closed]
    exact forall₂_foldr_prepend (ih depth) (nonempty _ _) fun h => by
      simpa using Respaced.string closed h
  | openString closed =>
    rw [pieces_quote, Bool.not_false, pieces_openString closed]
    exact .cons (.openString closed) .nil

/-- **The items of the two texts differ in nothing but their layout.** -/
theorem Respaced.items (h : Respaced text other) :
    List.Forall₂ Respaced (items text) (items other) := by
  rw [Token.items, Token.items]
  -- A blank text has no items, and both are blank or neither is.
  simp only [List.isEmpty_iff, h.trim.eq_nil_iff]
  split
  · exact .nil
  · rw [List.forall₂_map_left_iff, List.forall₂_map_right_iff]
    exact (h.pieces 0).imp fun _ _ => Respaced.trim

end Layout

end Text

end Clausal
