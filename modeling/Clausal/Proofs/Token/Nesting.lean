import Clausal.Proofs.Text.Blank
import Clausal.Token.Items
import Clausal.Token.Scan
import Mathlib.Data.List.Forall2

/-!
# Properly nested text

Text is properly nested if every bracket is closed by its partner, every string is closed, and
brackets inside strings do not count. Scanning a bracket and cutting a list into items both pass
over properly nested text as a whole, although the one counts brackets of a single kind, the other
brackets of both kinds, and the two have different ways to skip a string.

Main statements:
* `Nested`: properly nested text;
* `bracketInner_append`, `bracketInner_or`: what a bracket encloses is the properly nested text
  before its partner, or all that follows if it has none;
* `pieces_append`: no cut is made inside of properly nested text;
* `items_padded`: the items of a list are read back from the text between its brackets.
-/

namespace Clausal.Token

open Text

/-! ## Brackets -/

/-- The two kinds of brackets, those of lists and those of groups. -/
inductive Bracket where
  | list
  | group
  deriving DecidableEq, Repr

namespace Bracket

/-- The character that opens a bracket of this kind. -/
def opener : Bracket → Char
  | list => '['
  | group => '('

/-- The character that closes a bracket of this kind. -/
def closer : Bracket → Char
  | list => ']'
  | group => ')'

theorem opener_ne_quote (bracket : Bracket) : bracket.opener ≠ '"' := by
  cases bracket <;> decide

theorem closer_ne_quote (bracket : Bracket) : bracket.closer ≠ '"' := by
  cases bracket <;> decide

theorem closer_ne_opener (bracket : Bracket) : bracket.closer ≠ bracket.opener := by
  cases bracket <;> decide

end Bracket

/-- Whether a character is no quote and no bracket of these kinds. -/
def Plain (brackets : List Bracket) (c : Char) : Prop :=
  c ≠ '"' ∧ ∀ bracket ∈ brackets, c ≠ bracket.opener ∧ c ≠ bracket.closer

instance (brackets : List Bracket) (c : Char) : Decidable (Plain brackets c) :=
  inferInstanceAs
    (Decidable (c ≠ '"' ∧ ∀ bracket ∈ brackets, c ≠ bracket.opener ∧ c ≠ bracket.closer))

/-- The brackets of the other kind are characters like any other. -/
theorem plain_of_ne : ∀ bracket other : Bracket, other ≠ bracket →
    Plain [bracket] other.opener ∧ Plain [bracket] other.closer := by
  intro bracket other differ
  cases bracket <;> cases other <;> simp_all [Plain, Bracket.opener, Bracket.closer]

/-- A character of a class without delimiters and commas is plain, and no comma. -/
theorem plain_of_class {p : Char → Bool} {c : Char} (h : p c = true)
    (outside : ['"', '[', ']', '(', ')', ','].all (fun d => !p d) = true) :
    Plain [.list, .group] c ∧ c ∉ [','] := by
  have differ : ∀ d ∈ ['"', '[', ']', '(', ')', ','], c ≠ d := by
    rintro d mem rfl
    simpa [h] using List.all_eq_true.mp outside c mem
  -- The class is asked about the six characters that matter, and holds none of them.
  refine ⟨⟨differ _ (by decide), fun bracket _ => ?_⟩, by simpa using differ _ (by decide)⟩
  cases bracket <;> exact ⟨differ _ (by decide), differ _ (by decide)⟩

/-- `Nested brackets stops text`: the brackets of these kinds are properly nested in the text, its
strings are closed, and none of the stops stands outside of all brackets and strings. -/
inductive Nested (brackets : List Bracket) : List Char → List Char → Prop where
  | nil {stops : List Char} : Nested brackets stops []
  | char {stops rest : List Char} {c : Char} :
      Plain brackets c → c ∉ stops → Nested brackets stops rest → Nested brackets stops (c :: rest)
  | string {stops text rest : List Char} :
      '"' ∉ text → Nested brackets stops rest →
      Nested brackets stops ('"' :: text ++ '"' :: rest)
  | bracket {stops inner rest : List Char} {bracket : Bracket} :
      bracket ∈ brackets → Nested brackets [] inner → Nested brackets stops rest →
      Nested brackets stops (bracket.opener :: inner ++ bracket.closer :: rest)

namespace Nested

variable {brackets : List Bracket} {stops front back text : List Char}

theorem append (hfront : Nested brackets stops front) (hback : Nested brackets stops back) :
    Nested brackets stops (front ++ back) := by
  induction hfront with
  | nil => exact hback
  | char plain free _ ih => exact .char plain free (ih hback)
  | string closed _ ih =>
    rw [List.append_assoc]
    exact .string closed (ih hback)
  | bracket mem inner _ _ ih =>
    rw [List.append_assoc]
    exact .bracket mem inner (ih hback)

/-- Text without quotes, brackets and stops is properly nested. -/
theorem of_plain (h : ∀ c ∈ text, Plain brackets c ∧ c ∉ stops) : Nested brackets stops text := by
  induction text with
  | nil => exact .nil
  | cons c rest ih =>
    rw [List.forall_mem_cons] at h
    exact .char h.1.1 h.1.2 (ih h.2)

theorem of_string (h : '"' ∉ text) : Nested brackets stops ('"' :: text ++ ['"']) :=
  .string h .nil

theorem of_bracket {bracket : Bracket} (mem : bracket ∈ brackets) (h : Nested brackets [] text) :
    Nested brackets stops (bracket.opener :: text ++ [bracket.closer]) :=
  .bracket mem h .nil

/-- Properly nested texts may be joined. -/
theorem intercalate {separator : List Char} {texts : List (List Char)}
    (between : Nested brackets stops separator) (h : ∀ text ∈ texts, Nested brackets stops text) :
    Nested brackets stops (separator.intercalate texts) := by
  induction texts with
  | nil => exact .nil
  | cons text texts ih =>
    rw [List.forall_mem_cons] at h
    cases texts with
    | nil => simpa using h.1
    | cons => simpa using h.1.append (between.append (ih h.2))

/-- Text stays properly nested where its stops may stand. -/
theorem free (h : Nested brackets stops text) : Nested brackets [] text := by
  induction h with
  | nil => exact .nil
  | char plain _ _ ih => exact .char plain List.not_mem_nil ih
  | string closed _ ih => exact .string closed ih
  | bracket mem inner _ _ ih => exact .bracket mem inner ih

/-- Where brackets of both kinds are properly nested, those of either kind are. -/
theorem single (h : Nested [.list, .group] stops text) (bracket : Bracket) :
    Nested [bracket] [] text := by
  induction h with
  | nil => exact .nil
  | char plain _ _ ih =>
    refine .char ⟨plain.1, fun other _ => plain.2 other ?_⟩ List.not_mem_nil ih
    cases other <;> decide
  | string closed _ ih => exact .string closed ih
  | @bracket _ _ _ other _ _ _ ihInner ihRest =>
    by_cases same : other = bracket
    · subst same
      exact .bracket List.mem_cons_self ihInner ihRest
    · -- Brackets of the other kind are characters like any other.
      obtain ⟨opener, closer⟩ := plain_of_ne bracket other same
      exact .char opener List.not_mem_nil (ihInner.append (.char closer List.not_mem_nil ihRest))

end Nested

/-! ## What a bracket encloses -/

section BracketInner

variable {bracket : Bracket} {depth : Nat} {stops text front rest : List Char} {c : Char}

/-! ### One character -/

theorem bracketInner_inString {opener closer : Char} :
    bracketInner opener closer depth true (c :: rest) =
      c :: bracketInner opener closer depth (c != '"') rest := by
  simp [bracketInner]

theorem bracketInner_quote {opener closer : Char} :
    bracketInner opener closer depth false ('"' :: rest) =
      '"' :: bracketInner opener closer depth true rest := by
  simp [bracketInner]

theorem bracketInner_plain (h : Plain [bracket] c) :
    bracketInner bracket.opener bracket.closer depth false (c :: rest) =
      c :: bracketInner bracket.opener bracket.closer depth false rest := by
  obtain ⟨opener, closer⟩ := h.2 bracket List.mem_cons_self
  simp [bracketInner, h.1, opener, closer]

theorem bracketInner_opener :
    bracketInner bracket.opener bracket.closer depth false (bracket.opener :: rest) =
      bracket.opener :: bracketInner bracket.opener bracket.closer (depth + 1) false rest := by
  simp [bracketInner, bracket.opener_ne_quote]

theorem bracketInner_closer :
    bracketInner bracket.opener bracket.closer (depth + 1) false (bracket.closer :: rest) =
      bracket.closer :: bracketInner bracket.opener bracket.closer depth false rest := by
  simp [bracketInner, bracket.closer_ne_quote, bracket.closer_ne_opener]

theorem bracketInner_zero_closer :
    bracketInner bracket.opener bracket.closer 0 false (bracket.closer :: rest) = [] := by
  simp [bracketInner, bracket.closer_ne_quote, bracket.closer_ne_opener]

/-! ### Strings and properly nested text -/

theorem bracketInner_string {opener closer : Char} (h : '"' ∉ text) :
    bracketInner opener closer depth true (text ++ '"' :: rest) =
      text ++ '"' :: bracketInner opener closer depth false rest := by
  induction text with
  | nil => exact bracketInner_inString
  | cons c text ih =>
    rw [List.mem_cons, not_or] at h
    rw [List.cons_append, bracketInner_inString, bne_iff_ne.mpr (Ne.symm h.1), ih h.2]
    rfl

theorem bracketInner_openString {opener closer : Char} (h : '"' ∉ text) :
    bracketInner opener closer depth true text = text := by
  induction text with
  | nil => rfl
  | cons c text ih =>
    rw [List.mem_cons, not_or] at h
    rw [bracketInner_inString, bne_iff_ne.mpr (Ne.symm h.1), ih h.2]

/-- Properly nested text is passed over, at whatever depth it stands. -/
theorem bracketInner_append (h : Nested [bracket] stops front) (rest : List Char) :
    bracketInner bracket.opener bracket.closer depth false (front ++ rest) =
      front ++ bracketInner bracket.opener bracket.closer depth false rest := by
  -- On the nesting, for all depths at once: what is inside a bracket is passed over one level
  -- deeper.
  induction h generalizing depth rest with
  | nil => rfl
  | char plain _ _ ih => rw [List.cons_append, bracketInner_plain plain, ih, List.cons_append]
  | string closed _ ih =>
    simp only [List.append_assoc, List.cons_append, bracketInner_quote, bracketInner_string closed,
      ih]
  | bracket mem _ _ ihInner ihRest =>
    obtain rfl := List.mem_singleton.mp mem
    simp only [List.append_assoc, List.cons_append, bracketInner_opener, bracketInner_closer,
      ihInner, ihRest]

/-- What is not closed at one depth is not closed at a greater one. -/
theorem bracketInner_succ {opener closer : Char} {inString : Bool}
    (h : bracketInner opener closer depth inString text = text) :
    bracketInner opener closer (depth + 1) inString text = text := by
  fun_induction bracketInner opener closer depth inString text with
  | case1 => rfl
  | _ => grind [bracketInner]

/-- A bracket encloses the properly nested text before its partner, or all that follows if it has
no partner. -/
theorem bracketInner_or (bracket : Bracket) (text : List Char) :
    (∃ inner rest, text = inner ++ bracket.closer :: rest ∧ Nested [bracket] [] inner) ∨
      bracketInner bracket.opener bracket.closer 0 false text = text := by
  -- What closed text in front is properly nested does not decide, but what follows it.
  have pass {front text : List Char} (h : Nested [bracket] [] front)
      (after : (∃ inner rest, text = inner ++ bracket.closer :: rest ∧ Nested [bracket] [] inner) ∨
        bracketInner bracket.opener bracket.closer 0 false text = text) :
      (∃ inner rest, front ++ text = inner ++ bracket.closer :: rest ∧
          Nested [bracket] [] inner) ∨
        bracketInner bracket.opener bracket.closer 0 false (front ++ text) = front ++ text := by
    rcases after with ⟨inner, rest, rfl, nested⟩ | whole
    · exact .inl ⟨front ++ inner, rest, (List.append_assoc _ _ _).symm, h.append nested⟩
    · exact .inr (by rw [bracketInner_append h, whole])
  match text with
  | [] => exact .inr rfl
  | c :: text =>
    -- A string or a bracket in front is passed over as a whole, and what follows is shorter.
    by_cases quote : c = '"'
    · subst quote
      by_cases closed : '"' ∈ text
      · obtain ⟨inside, after, htext, free⟩ := List.eq_append_cons_of_mem closed
        have shorter : after.length < text.length := by
          simp only [htext, List.length_append, List.length_cons]; omega
        have := pass (.of_string free) (bracketInner_or bracket after)
        simpa [htext] using this
      · exact .inr (by rw [bracketInner_quote, bracketInner_openString closed])
    by_cases opens : c = bracket.opener
    · subst opens
      rcases bracketInner_or bracket text with ⟨inner, after, htext, nested⟩ | whole
      · have shorter : after.length < text.length := by
          simp only [htext, List.length_append, List.length_cons]; omega
        have := pass (.of_bracket List.mem_cons_self nested) (bracketInner_or bracket after)
        simpa [htext] using this
      -- A bracket without a partner takes everything, and leaves none to the one around it.
      · exact .inr (by rw [bracketInner_opener, bracketInner_succ whole])
    by_cases closes : c = bracket.closer
    · subst closes
      exact .inl ⟨[], text, rfl, .nil⟩
    · have plain : Plain [bracket] c := by simp [Plain, quote, opens, closes]
      have nested : Nested [bracket] [] [c] := .char plain List.not_mem_nil .nil
      exact pass nested (bracketInner_or bracket text)
termination_by text.length
decreasing_by
  all_goals simp only [List.length_cons]; omega

end BracketInner

/-! ## The items of a list -/

section Pieces

variable {depth : Int} {stops text front rest piece : List Char} {pieceList : List (List Char)}
  {c : Char} {bracket : Bracket}

/-- Characters in front of a text lengthen its first piece. -/
theorem foldr_prepend (front piece : List Char) (others : List (List Char)) :
    front.foldr prepend (piece :: others) = (front ++ piece) :: others := by
  induction front with
  | nil => rfl
  | cons c front ih => rw [List.foldr_cons, ih, prepend, List.cons_append]

/-! ### One character -/

theorem pieces_inString (h : c ≠ '"') :
    pieces depth true (c :: rest) = prepend c (pieces depth true rest) := by
  rw [pieces, if_neg h, if_pos rfl]

theorem pieces_quote {inString : Bool} :
    pieces depth inString ('"' :: rest) = prepend '"' (pieces depth (!inString) rest) := by
  rw [pieces, if_pos rfl]

theorem pieces_plain (h : Plain [.list, .group] c) (uncut : ¬ (c = ',' ∧ depth = 0)) :
    pieces depth false (c :: rest) = prepend c (pieces depth false rest) := by
  have list := h.2 .list (by decide)
  have group := h.2 .group (by decide)
  have flat : depthChange c = 0 := by
    simp_all [depthChange, Bracket.opener, Bracket.closer]
  rw [pieces, if_neg h.1, if_neg (by decide), if_neg uncut, flat, Int.add_zero]

theorem pieces_opener :
    pieces depth false (bracket.opener :: rest) =
      prepend bracket.opener (pieces (depth + 1) false rest) := by
  cases bracket <;> simp [pieces, Bracket.opener, depthChange]

theorem pieces_closer :
    pieces (depth + 1) false (bracket.closer :: rest) =
      prepend bracket.closer (pieces depth false rest) := by
  have closed : depth + 1 + -1 = depth := by omega
  cases bracket <;> simp [pieces, Bracket.closer, depthChange, closed]

theorem pieces_comma : pieces 0 false (',' :: rest) = [] :: pieces 0 false rest := by
  simp [pieces]

/-! ### Strings and properly nested text -/

theorem pieces_string (h : '"' ∉ text) :
    pieces depth true (text ++ '"' :: rest) =
      text.foldr prepend (prepend '"' (pieces depth false rest)) := by
  induction text with
  | nil => exact pieces_quote
  | cons c text ih =>
    rw [List.mem_cons, not_or] at h
    rw [List.cons_append, pieces_inString (Ne.symm h.1), ih h.2, List.foldr_cons]

theorem pieces_closedString (closed : '"' ∉ text) (rest : List Char) :
    pieces depth false ('"' :: text ++ '"' :: rest) =
      ('"' :: text ++ ['"']).foldr prepend (pieces depth false rest) := by
  rw [List.cons_append, pieces_quote, Bool.not_false, pieces_string closed, List.cons_append,
    List.foldr_cons, List.foldr_append]
  rfl

theorem pieces_openString (h : '"' ∉ text) : pieces depth true text = [text] := by
  induction text with
  | nil => rw [pieces]
  | cons c text ih =>
    rw [List.mem_cons, not_or] at h
    rw [pieces_inString (Ne.symm h.1), ih h.2, prepend]

/-- Text without delimiters and commas is not cut, at whatever depth it stands. -/
theorem pieces_plain_append (h : ∀ c ∈ front, Plain [.list, .group] c ∧ c ∉ [','])
    (rest : List Char) :
    pieces depth false (front ++ rest) = front.foldr prepend (pieces depth false rest) := by
  -- No character changes the depth, so each is put in front of the piece that follows.
  induction front with
  | nil => rfl
  | cons c front ih =>
    rw [List.forall_mem_cons] at h
    have uncut : ¬ (c = ',' ∧ depth = 0) := fun comma => by simp [comma.1] at h
    rw [List.cons_append, pieces_plain h.1.1 uncut, ih h.2, List.foldr_cons]

/-- Properly nested text is not cut, unless at a comma that stands outside of all brackets at depth
zero. -/
theorem pieces_append (h : Nested [.list, .group] stops front) (inside : 0 ≤ depth)
    (uncut : depth = 0 → ',' ∈ stops) (rest : List Char) :
    pieces depth false (front ++ rest) = front.foldr prepend (pieces depth false rest) := by
  induction h generalizing depth rest with
  | nil => rfl
  | @char _ _ c plain free _ ih =>
    have notCut : ¬ (c = ',' ∧ depth = 0) := by
      rintro ⟨rfl, zero⟩
      exact free (uncut zero)
    rw [List.cons_append, pieces_plain plain notCut, ih inside uncut, List.foldr_cons]
  | string closed _ ih =>
    simp only [List.append_assoc, List.cons_append, List.foldr_cons, List.foldr_append,
      pieces_quote, Bool.not_false, pieces_string closed, ih inside uncut]
  | bracket _ _ _ ihInner ihRest =>
    -- Inside the bracket a comma is no cut, since the depth is positive.
    have deeper : (0 : Int) ≤ depth + 1 := by omega
    have positive : depth + 1 = 0 → ',' ∈ ([] : List Char) := by omega
    simp only [List.append_assoc, List.cons_append, List.foldr_cons, List.foldr_append,
      pieces_opener, pieces_closer, ihInner deeper positive, ihRest inside uncut]

/-- Texts that are joined by commas are cut apart at these commas, and nowhere else. -/
theorem pieces_intercalate {texts : List (List Char)} (nonempty : texts ≠ [])
    (h : ∀ text ∈ texts, Nested [.list, .group] [','] text) :
    pieces 0 false ([','].intercalate texts) = texts := by
  -- Outside of all brackets, a text without commas of its own goes into one piece.
  have pass {text : List Char} (nested : Nested [.list, .group] [','] text) (rest : List Char) :
      pieces 0 false (text ++ rest) = text.foldr prepend (pieces 0 false rest) :=
    pieces_append nested (Int.le_refl 0) (fun _ => List.mem_cons_self) rest
  induction texts with
  | nil => contradiction
  | cons text others ih =>
    rw [List.forall_mem_cons] at h
    cases others with
    | nil =>
      have alone := pass h.1 []
      rw [List.append_nil] at alone
      rw [List.intercalate_singleton, alone, pieces, foldr_prepend, List.append_nil]
    | cons second others =>
      rw [List.intercalate_cons_cons, List.append_assoc, pass h.1, List.singleton_append,
        pieces_comma, foldr_prepend, List.append_nil, ih (List.cons_ne_nil _ _) h.2]

/-- The items of texts that are joined by commas are the texts without the blanks around them,
unless all of it is blank. -/
theorem items_intercalate {texts : List (List Char)}
    (h : ∀ text ∈ texts, Nested [.list, .group] [','] text)
    (visible : trim ([','].intercalate texts) ≠ []) :
    items ([','].intercalate texts) = texts.map trim := by
  have nonempty : texts ≠ [] := by
    -- No texts at all would make the empty text, which is blank.
    rintro rfl
    exact visible rfl
  rw [items, if_neg (by simpa using visible), pieces_intercalate nonempty h]

/-! ### Texts that are items -/

/-- A text that can be an item of a list: it is not empty and has no blank at its ends, and its
commas stand in brackets and strings, which are all closed. -/
structure IsItem (text : List Char) : Prop where
  nonempty : text ≠ []
  trimmed : trim text = text
  nested : Nested [.list, .group] [','] text

/-- `Padded piece text`: the piece is the text with blanks around it. -/
def Padded (piece text : List Char) : Prop :=
  ∃ before after, piece = before ++ text ++ after ∧ ∀ c ∈ before ++ after, isBlank c = true

theorem Padded.refl (text : List Char) : Padded text text :=
  ⟨[], [], by simp, by simp⟩

theorem Padded.space (text : List Char) : Padded (' ' :: text) text :=
  ⟨[' '], [], by simp, List.all_eq_true.mp (by decide)⟩

/-- A blank is neither a delimiter nor a comma. -/
theorem plain_of_isBlank (h : isBlank c = true) : Plain [.list, .group] c ∧ c ∉ [','] :=
  plain_of_class h (by decide)

theorem Padded.trim_eq (h : Padded piece text) : trim piece = trim text := by
  obtain ⟨before, after, rfl, blank⟩ := h
  rw [List.forall_mem_append] at blank
  rw [trim_append_blanks blank.2, trim_blanks_append blank.1]

theorem Padded.nested (h : Padded piece text) (nested : Nested [.list, .group] [','] text) :
    Nested [.list, .group] [','] piece := by
  obtain ⟨before, after, rfl, blank⟩ := h
  rw [List.forall_mem_append] at blank
  -- Blanks neither open nor close anything.
  have plain {blanks : List Char} (h : ∀ c ∈ blanks, isBlank c = true) :
      Nested [.list, .group] [','] blanks := .of_plain fun c mem => plain_of_isBlank (h c mem)
  exact ((plain blank.1).append nested).append (plain blank.2)

/-- Items with blanks around them are properly nested, and trimmed they are the items. -/
theorem nested_map_trim_of_padded {texts : List (List Char)}
    (h : List.Forall₂ Padded pieceList texts) (each : ∀ text ∈ texts, IsItem text) :
    (∀ piece ∈ pieceList, Nested [.list, .group] [','] piece) ∧ pieceList.map trim = texts := by
  induction h with
  | nil => simp
  | cons first _ ih =>
    rw [List.forall_mem_cons] at each
    obtain ⟨nested, trimmed⟩ := ih each.2
    refine ⟨List.forall_mem_cons.mpr ⟨first.nested each.1.nested, nested⟩, ?_⟩
    rw [List.map_cons, first.trim_eq, each.1.trimmed, trimmed]

/-- **The items of a list are read back from the text between its brackets**, whatever blanks stand
around them. -/
theorem items_padded {texts : List (List Char)} (h : List.Forall₂ Padded pieceList texts)
    (each : ∀ text ∈ texts, IsItem text) : items ([','].intercalate pieceList) = texts := by
  obtain ⟨nested, trimmed⟩ := nested_map_trim_of_padded h each
  cases h with
  | nil => rfl
  | @cons piece text pieces texts first others =>
    -- The first item is not blank, so neither is the whole.
    have visible : trim ([','].intercalate (piece :: pieces)) ≠ [] := by
      have item := each text List.mem_cons_self
      obtain ⟨c, rest, rfl⟩ := List.exists_cons_of_ne_nil item.nonempty
      obtain ⟨before, after, rfl, -⟩ := first
      refine trim_ne_nil (c := c) ?_ (not_isBlank_head?_trim (by rw [item.trimmed]; rfl))
      cases pieces <;> simp
    rw [items_intercalate nested visible, trimmed]

/-! ### Items with a comma and a space between them -/

/-- Texts with a comma and a space between them. -/
def separated (texts : List (List Char)) : List Char :=
  [',', ' '].intercalate texts

theorem separated_singleton (text : List Char) : separated [text] = text :=
  List.intercalate_singleton

theorem separated_cons_cons (text second : List Char) (texts : List (List Char)) :
    separated (text :: second :: texts) = text ++ ',' :: ' ' :: separated (second :: texts) := by
  rw [separated, List.intercalate_cons_cons, List.append_assoc]
  rfl

/-- What is written in the way of a list, with nothing for no element, is the texts of the elements
with a comma and a space between them. -/
theorem eq_separated {α : Type} {chars : α → List Char} {charsOfList : List α → List Char}
    (none : charsOfList [] = []) (one : ∀ a, charsOfList [a] = chars a)
    (more : ∀ a b as, charsOfList (a :: b :: as) = chars a ++ ',' :: ' ' :: charsOfList (b :: as))
    (as : List α) : charsOfList as = separated (as.map chars) := by
  induction as with
  | nil => exact none
  | cons a as ih =>
    cases as with
    | nil => rw [one, List.map_singleton, separated_singleton]
    | cons b as =>
      rw [more, ih]
      exact (separated_cons_cons (chars a) (chars b) (as.map chars)).symm

/-- What follows the first text has a space in front. -/
theorem separated_cons (text : List Char) (texts : List (List Char)) :
    separated (text :: texts) = [','].intercalate (text :: texts.map (' ' :: ·)) := by
  unfold separated
  induction texts generalizing text with
  | nil => rfl
  | cons second texts ih =>
    rw [List.intercalate_cons_cons, ih, List.map_cons, List.intercalate_cons_cons]
    cases texts with
    | nil => simp [List.intercalate_singleton]
    | cons => simp [List.intercalate_cons_cons]

/-- A comma and a space between the items are a comma and some blanks. -/
theorem separated_eq_padded (texts : List (List Char)) :
    ∃ pieceList, separated texts = [','].intercalate pieceList ∧
      List.Forall₂ Padded pieceList texts := by
  cases texts with
  | nil => exact ⟨[], rfl, .nil⟩
  | cons text texts =>
    refine ⟨_, separated_cons text texts, .cons (.refl text) ?_⟩
    exact List.forall₂_map_left_iff.mpr (List.forall₂_same.mpr fun text _ => .space text)

theorem items_separated {texts : List (List Char)} (each : ∀ text ∈ texts, IsItem text) :
    items (separated texts) = texts := by
  obtain ⟨pieceList, joined, padded⟩ := separated_eq_padded texts
  rw [joined, items_padded padded each]

theorem nested_separated {texts : List (List Char)}
    (each : ∀ text ∈ texts, Nested [.list, .group] [','] text) :
    Nested [.list, .group] [] (separated texts) := by
  have comma : Nested [.list, .group] [] [',', ' '] :=
    .char (by decide) (by decide) (.char (by decide) (by decide) .nil)
  exact .intercalate comma fun text mem => (each text mem).free

end Pieces

end Clausal.Token
