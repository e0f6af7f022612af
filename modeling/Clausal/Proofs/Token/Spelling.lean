import Clausal.Proofs.Token.Lexeme
import Clausal.Proofs.Token.Nesting

/-!
# The spelling of tokens

What a token is decides how it is written, but for a string or a bracket that nothing closes. A
token that is written out is scanned as that token wherever it stands, if what follows does not
lengthen it and a minus sign in front of it is not taken for the operator.

Main statements:
* `Starts.spells`: a token is its spelling, or it is left open and runs to the end of the text;
* `Spells.starts`, `Unclosed.starts`: what is spelled out is scanned, and so is what is left open;
* `exists_mem_scan_iff`: the texts that are lexemes of tokens.
-/

namespace Clausal.Token

open Text Decimal

/-! ## Spellings -/

/-- The kind of token that a bracket makes of the text in it. -/
def Bracket.kind : Bracket → List Char → Kind
  | list => .list
  | group => .group

/-- `Spells text kind`: written out, a token of this kind is this text. -/
inductive Spells : List Char → Kind → Prop where
  /-- A number has many spellings. Which number a numeral spells is what is read from it. -/
  | number {text : List Char} : Numeral text → Spells text (.number (Decimal.read text))
  | identifier {c : Char} {rest : List Char} :
      isIdentifierStart c = true → (∀ d ∈ rest, isIdentifierChar d = true) →
      Spells (c :: rest) (.identifier (String.ofList (c :: rest)))
  | operator {c : Char} {rest : List Char} : (∀ d ∈ c :: rest, isOperatorChar d = true) →
      Spells (c :: rest) (.operator (String.ofList (c :: rest)))
  /-- Between quotes every character but the quote stands for itself. -/
  | string {text : List Char} : '"' ∉ text →
      Spells ('"' :: text ++ ['"']) (.string (String.ofList text))
  /-- Only brackets of the same kind have to be nested, since no others are counted. -/
  | bracket (bracket : Bracket) {inner : List Char} : Nested [bracket] [] inner →
      Spells (bracket.opener :: inner ++ [bracket.closer]) (bracket.kind inner)

/-- `Unclosed text kind`: the text starts a string or a bracket and does not close it. -/
inductive Unclosed : List Char → Kind → Prop where
  | string {text : List Char} : '"' ∉ text →
      Unclosed ('"' :: text) (.string (String.ofList text))
  /-- No closing bracket stands behind properly nested text, so none is the partner. -/
  | bracket (bracket : Bracket) {inner : List Char} :
      (∀ front rest, Nested [bracket] [] front → inner ≠ front ++ bracket.closer :: rest) →
      Unclosed (bracket.opener :: inner) (bracket.kind inner)

section Spells

variable {afterOperand : Bool} {c : Char} {text rest after : List Char} {kind : Kind}
  {length offset : Nat}

/-! ## Delimiters -/

theorem stringInner_closed (h : '"' ∉ text) (after : List Char) :
    stringInner (text ++ '"' :: after) = text := by
  have inside : ∀ c ∈ text, (c != '"') = true := by
    intro c mem
    exact bne_iff_ne.mpr (ne_of_mem_of_not_mem mem h)
  rw [stringInner, List.takeWhile_append_of_pos inside, List.takeWhile_cons_of_neg (by simp),
    List.append_nil]

theorem stringInner_open (h : '"' ∉ text) : stringInner text = text := by
  rw [stringInner, List.takeWhile_eq_self_iff]
  intro c mem
  exact bne_iff_ne.mpr (ne_of_mem_of_not_mem mem h)

theorem bracketInner_closed {bracket : Bracket} (h : Nested [bracket] [] text)
    (after : List Char) :
    bracketInner bracket.opener bracket.closer 0 false (text ++ bracket.closer :: after) =
      text := by
  rw [bracketInner_append h, bracketInner_zero_closer, List.append_nil]

theorem enclosedLength_closed (inner after : List Char) (closer : Char) :
    enclosedLength inner (inner ++ closer :: after) = (inner ++ [closer]).length := by
  simp only [enclosedLength, List.length_append, List.length_cons, List.length_nil]
  omega

theorem enclosedLength_self (rest : List Char) : enclosedLength rest rest = rest.length := by
  unfold enclosedLength
  omega

theorem take_enclosedLength (inner after : List Char) (closer : Char) :
    (inner ++ closer :: after).take (enclosedLength inner (inner ++ closer :: after)) =
      inner ++ [closer] := by
  have split : inner ++ closer :: after = (inner ++ [closer]) ++ after := by simp
  rw [enclosedLength_closed, split, List.take_left]

/-! ## A token is spelled out or left open -/

theorem spells_string (rest : List Char) :
    Spells ('"' :: rest.take (enclosedLength (stringInner rest) rest))
        (.string (String.ofList (stringInner rest))) ∨
      Unclosed ('"' :: rest.take (enclosedLength (stringInner rest) rest))
          (.string (String.ofList (stringInner rest))) ∧
        rest.length ≤ enclosedLength (stringInner rest) rest := by
  -- The string ends at the first quote, or with the text.
  by_cases closed : '"' ∈ rest
  · obtain ⟨inside, after, rfl, free⟩ := List.eq_append_cons_of_mem closed
    rw [stringInner_closed free, take_enclosedLength]
    exact .inl (.string free)
  · rw [stringInner_open closed, enclosedLength_self, List.take_length]
    exact .inr ⟨.string closed, Nat.le_refl _⟩

theorem spells_bracket (bracket : Bracket) (rest : List Char) :
    ∀ inner, bracketInner bracket.opener bracket.closer 0 false rest = inner →
      Spells (bracket.opener :: rest.take (enclosedLength inner rest)) (bracket.kind inner) ∨
        Unclosed (bracket.opener :: rest.take (enclosedLength inner rest)) (bracket.kind inner) ∧
          rest.length ≤ enclosedLength inner rest := by
  rintro inner rfl
  -- The partner of the bracket is the closing bracket behind properly nested text.
  by_cases closed : ∃ front after, rest = front ++ bracket.closer :: after ∧
      Nested [bracket] [] front
  · obtain ⟨front, after, rfl, nested⟩ := closed
    rw [bracketInner_closed nested, take_enclosedLength]
    exact .inl (.bracket bracket nested)
  -- Nothing closes the bracket, so the rest of the text is inside it.
  · have whole := (bracketInner_or bracket rest).resolve_left closed
    rw [whole, enclosedLength_self, List.take_length]
    refine .inr ⟨.bracket bracket fun front after nested heq => ?_, Nat.le_refl _⟩
    exact closed ⟨front, after, heq, nested⟩

/-- **A token is its spelling, or it is left open and runs to the end of the text.** -/
theorem Starts.spells (h : Starts afterOperand c rest kind length) :
    Spells (c :: rest.take length) kind ∨
      Unclosed (c :: rest.take length) kind ∧ rest.length ≤ length := by
  cases h with
  | list => exact spells_bracket .list rest _ rfl
  | group => exact spells_bracket .group rest _ rfl
  | string => exact spells_string rest
  | number h =>
    have tail := take_numeralLength rest
    refine .inl (.number ?_)
    rcases startsNumeral_iff.mp h with digit | ⟨rfl, -, digit⟩
    · exact .unsigned digit tail
    · -- Behind the sign stands the first digit, which the tail starts with.
      obtain ⟨n, hn⟩ := Nat.exists_eq_add_one.mpr (numeralLength_pos digit)
      cases rest with
      | nil => simp at digit
      | cons d rest =>
        have digit : d.isDigit = true := by simpa using digit
        rw [hn, List.take_succ_cons] at tail ⊢
        exact .negative digit ((numeralTail_cons_iff digit).mp tail)
  | operator _ h =>
    rw [take_run]
    refine .inl (.operator ?_)
    rw [List.forall_mem_cons]
    exact ⟨h, fun d => List.mem_takeWhile_imp⟩
  | identifier _ h =>
    rw [take_run]
    exact .inl (.identifier h fun d => List.mem_takeWhile_imp)

/-! ## What is spelled out is scanned -/

/-- Whether a character lengthens a numeral, a name or an operator that stands in front of it. One
class for all three is enough, since what follows a token in written text is a space or nothing. -/
def lengthens (c : Char) : Bool :=
  isIdentifierChar c || isOperatorChar c || c == '.'

/-- What a token may stand in front of without being lengthened. -/
def Ended (after : List Char) : Prop :=
  ∀ c ∈ after.head?, lengthens c = false

theorem ended_nil : Ended [] := by
  simp [Ended]

/-- A run of a class of such characters ends with the token. -/
theorem Ended.takeWhile_append {p : Char → Bool} (h : Ended after)
    (run : ∀ c ∈ text, p c = true) (narrow : ∀ c, p c = true → lengthens c = true) :
    (text ++ after).takeWhile p = text := by
  rw [List.takeWhile_append_of_pos run]
  cases after with
  | nil => rw [List.takeWhile_nil, List.append_nil]
  | cons c after =>
    have stop : ¬ p c = true := fun more => by simpa [h c rfl] using narrow c more
    rw [List.takeWhile_cons_of_neg stop, List.append_nil]

theorem Ended.not_isDigit (h : Ended after) : ∀ c ∈ after.head?, c.isDigit = false ∧ c ≠ '.' := by
  intro c mem
  have ended := h c mem
  simp only [lengthens, Bool.or_eq_false_iff, beq_eq_false_iff_ne] at ended
  -- A digit would continue an identifier, and so lengthen what is in front of it.
  refine ⟨Bool.eq_false_iff.mpr fun digit => ?_, ended.2⟩
  simp [isIdentifierChar_of_isDigit digit] at ended

theorem Starts.bracket (bracket : Bracket) (rest : List Char) :
    Starts afterOperand bracket.opener rest
      (bracket.kind (bracketInner bracket.opener bracket.closer 0 false rest))
      (enclosedLength (bracketInner bracket.opener bracket.closer 0 false rest) rest) := by
  cases bracket with
  | list => exact .list rest
  | group => exact .group rest

theorem starts_bracket (bracket : Bracket) {inner : List Char} (nested : Nested [bracket] [] inner)
    (after : List Char) :
    Starts afterOperand bracket.opener (inner ++ bracket.closer :: after) (bracket.kind inner)
      (inner ++ [bracket.closer]).length := by
  have h := @Starts.bracket afterOperand bracket (inner ++ bracket.closer :: after)
  rwa [bracketInner_closed nested, enclosedLength_closed] at h

/-- **What is spelled out is scanned**, if what follows does not lengthen it and a number with a
sign does not stand after an operand. -/
theorem Spells.starts (h : Spells text kind) (ended : Ended after)
    (sign : kind.isOperand = true → text.head? = some '-' → afterOperand = false) :
    ∃ c cs, text = c :: cs ∧ Starts afterOperand c (cs ++ after) kind cs.length := by
  cases h with
  | number h =>
    cases h with
    | @unsigned c rest digit tail =>
      have h := @Starts.number afterOperand c (rest ++ after) (startsNumeral_iff.mpr (.inl digit))
      rw [numeralLength_append tail ended.not_isDigit, List.take_left] at h
      exact ⟨c, rest, rfl, h⟩
    | @negative c rest digit tail =>
      -- After an operand the minus sign would be the operator.
      obtain rfl := sign rfl rfl
      have h := @Starts.number false '-' (c :: rest ++ after)
        (startsNumeral_iff.mpr (.inr ⟨rfl, rfl, digit⟩))
      rw [numeralLength_append ((numeralTail_cons_iff digit).mpr tail) ended.not_isDigit,
        List.take_left] at h
      exact ⟨'-', c :: rest, rfl, h⟩
  | @identifier c rest start run =>
    have h := @Starts.identifier afterOperand c (rest ++ after) start
    rw [ended.takeWhile_append run (by simp +contextual [lengthens])] at h
    exact ⟨c, rest, rfl, h⟩
  | @operator c rest run =>
    rw [List.forall_mem_cons] at run
    -- What follows is another operator character or ends the run, and neither is a digit.
    have noDigit : ∀ d ∈ (rest ++ after).head?, d.isDigit = false := by
      cases rest with
      | nil => exact fun d mem => (ended.not_isDigit d mem).1
      | cons d rest => simpa using not_isDigit_of_isOperatorChar (run.2 d List.mem_cons_self)
    -- The scanner looks for a numeral first, and an operator begins none.
    have noNumeral : startsNumeral afterOperand c (rest ++ after) = false := by
      rw [← Bool.not_eq_true, startsNumeral_iff, not_isDigit_of_isOperatorChar run.1]
      rintro (digit | ⟨-, -, digit⟩)
      · contradiction
      · obtain ⟨d, mem, digit⟩ := (Option.any_eq_true _ _).mp digit
        simp [noDigit d mem] at digit
    have h := Starts.operator noNumeral run.1
    rw [ended.takeWhile_append run.2 (by simp +contextual [lengthens])] at h
    exact ⟨c, rest, rfl, h⟩
  | @string inner free =>
    have h := @Starts.string afterOperand (inner ++ '"' :: after)
    rw [stringInner_closed free, enclosedLength_closed] at h
    exact ⟨'"', inner ++ ['"'], rfl, by simpa using h⟩
  | @bracket bracket inner nested =>
    exact ⟨bracket.opener, inner ++ [bracket.closer], rfl,
      by simpa using starts_bracket bracket nested after⟩

/-- Alone, every token that is spelled out is scanned. -/
theorem Spells.starts_alone (h : Spells text kind) :
    ∃ c cs, text = c :: cs ∧ Starts false c cs kind cs.length := by
  obtain ⟨c, cs, htext, starts⟩ := h.starts ended_nil fun _ _ => rfl
  rw [List.append_nil] at starts
  exact ⟨c, cs, htext, starts⟩

/-! ## Scanning spelled text -/

theorem scanFrom_skip_append (h : ∀ c ∈ text, startsToken c = false) :
    scanFrom offset afterOperand (text ++ after) =
      scanFrom (offset + text.length) afterOperand after := by
  -- Each character that starts no token is skipped by itself.
  induction text generalizing offset with
  | nil => rfl
  | cons c text ih =>
    rw [List.forall_mem_cons] at h
    rw [List.cons_append, scanFrom_skip h.1, ih h.2, List.length_cons, Nat.add_assoc,
      Nat.add_comm 1]

/-- A string that is closed is scanned as one token, whatever follows it. -/
theorem scanFrom_string (closed : '"' ∉ text) (after : List Char) :
    scanFrom offset afterOperand ('"' :: text ++ '"' :: after) =
      ⟨.string (String.ofList text), '"' :: text ++ ['"'], offset⟩ ::
        scanFrom (offset + 1 + (text ++ ['"']).length) true after := by
  have behind : (text ++ '"' :: after).drop (text ++ ['"']).length = after := by
    have split : text ++ '"' :: after = (text ++ ['"']) ++ after := by simp
    rw [split, List.drop_left]
  rw [List.cons_append, scanFrom_of_starts (.string _), stringInner_closed closed,
    take_enclosedLength, enclosedLength_closed, behind]
  rfl

/-- A token that is spelled out is scanned first, and then what follows it. -/
theorem Spells.scanFrom (h : Spells text kind) (ended : Ended after)
    (sign : kind.isOperand = true → text.head? = some '-' → afterOperand = false) :
    scanFrom offset afterOperand (text ++ after) =
      ⟨kind, text, offset⟩ :: Token.scanFrom (offset + text.length) kind.isOperand after := by
  obtain ⟨c, cs, rfl, starts⟩ := h.starts ended sign
  rw [List.cons_append, scanFrom_of_starts starts, List.take_left, List.drop_left,
    List.length_cons, Nat.add_assoc, Nat.add_comm 1]

/-- Spelled out alone, a token is scanned alone. -/
theorem Spells.scan (h : Spells text kind) : scan text = [⟨kind, text, 0⟩] := by
  have alone := @Spells.scanFrom false text [] kind 0 h ended_nil fun _ _ => rfl
  rwa [List.append_nil, Token.scanFrom] at alone

/-! ## What is left open is scanned -/

/-- **What is left open is scanned**, up to the end of the text, wherever it stands. -/
theorem Unclosed.starts (h : Unclosed text kind) :
    ∃ c cs, text = c :: cs ∧ Starts afterOperand c cs kind cs.length := by
  cases h with
  | @string inner free =>
    have h := @Starts.string afterOperand inner
    rw [stringInner_open free, enclosedLength_self] at h
    exact ⟨'"', inner, rfl, h⟩
  | @bracket bracket inner free =>
    -- Without a partner, the bracket encloses all that follows it.
    have whole := (bracketInner_or bracket inner).resolve_left
      fun ⟨front, rest, heq, nested⟩ => free front rest nested heq
    have h := @Starts.bracket afterOperand bracket inner
    rw [whole, enclosedLength_self] at h
    exact ⟨bracket.opener, inner, rfl, h⟩

/-- What is left open is scanned as one token, the last. -/
theorem Unclosed.scanFrom (h : Unclosed text kind) :
    scanFrom offset afterOperand text = [⟨kind, text, offset⟩] := by
  obtain ⟨c, cs, rfl, starts⟩ := @Unclosed.starts afterOperand _ _ h
  rw [scanFrom_of_starts starts, List.take_length, List.drop_length, Token.scanFrom]

theorem Unclosed.scan (h : Unclosed text kind) : scan text = [⟨kind, text, 0⟩] :=
  h.scanFrom

/-- **The lexemes of tokens are the texts that are spelled out or left open**, and no others. -/
theorem exists_mem_scan_iff : (∃ source offset, ⟨kind, text, offset⟩ ∈ scan source) ↔
    Spells text kind ∨ Unclosed text kind := by
  constructor
  · rintro ⟨source, offset, mem⟩
    obtain ⟨_, c, rest, length, -, -, rfl, _, starts⟩ := exists_of_mem_scan mem
    exact starts.spells.imp_right And.left
  · -- Every such text is its own source.
    rintro (spelled | unclosed)
    · exact ⟨text, 0, spelled.scan ▸ List.mem_singleton_self _⟩
    · exact ⟨text, 0, unclosed.scan ▸ List.mem_singleton_self _⟩

/-! ## The ends of a spelling -/

theorem Spells.ne_nil (h : Spells text kind) : text ≠ [] := by
  obtain ⟨c, cs, rfl, -⟩ := h.starts_alone
  exact List.cons_ne_nil c cs

/-- Operators alone end like operators. Every other token ends with a delimiter or with a character
that stands in identifiers. -/
theorem Spells.last (h : Spells text kind) : ∀ c ∈ text.getLast?,
    isIdentifierChar c = true ∨ c = '"' ∨ c = ']' ∨ c = ')' ∨
      isOperatorChar c = true ∧ kind.isOperand = false := by
  cases h with
  | number h =>
    -- A numeral ends with a digit, since a point in it has a digit behind it.
    have digits : ∀ c ∈ text.getLast?, c.isDigit = true := by
      cases h with
      | unsigned digit tail => exact ((numeralTail_cons_iff digit).mpr tail).getLast?_isDigit
      | negative digit tail =>
        rw [List.getLast?_cons_of_ne_nil (List.cons_ne_nil _ _)]
        exact ((numeralTail_cons_iff digit).mpr tail).getLast?_isDigit
    exact fun c mem => .inl (isIdentifierChar_of_isDigit (digits c mem))
  | @identifier first rest start run =>
    have all : ∀ c ∈ first :: rest, isIdentifierChar c = true :=
      List.forall_mem_cons.mpr ⟨isIdentifierChar_of_isIdentifierStart start, run⟩
    exact fun c mem => .inl (all c (List.mem_of_mem_getLast? mem))
  | operator run =>
    exact fun c mem => .inr (.inr (.inr (.inr ⟨run c (List.mem_of_mem_getLast? mem), rfl⟩)))
  | string =>
    intro c mem
    rw [List.getLast?_concat, Option.mem_some_iff] at mem
    exact .inr (.inl mem.symm)
  | bracket bracket =>
    intro c mem
    rw [List.getLast?_concat, Option.mem_some_iff] at mem
    cases bracket with
    | list => exact .inr (.inr (.inl mem.symm))
    | group => exact .inr (.inr (.inr (.inl mem.symm)))

/-- No token starts with a blank. -/
theorem not_isBlank_of_startsToken (h : startsToken c = true) : isBlank c = false := by
  rw [Bool.eq_false_iff]
  intro blank
  have noIdentifier := not_isIdentifierChar_of_isBlank blank
  simp only [startsToken, Bool.or_eq_true, beq_iff_eq] at h
  rcases h with (((((digit | operator) | letter) | rfl) | rfl) | rfl) | rfl
  · simp [isIdentifierChar_of_isDigit digit] at noIdentifier
  · have := of_isAscii (q := fun c => !isBlank c) (by decide) (isAscii_of_isOperatorChar operator)
      operator
    simp [blank] at this
  · simp [isIdentifierChar, letter] at noIdentifier
  all_goals exact absurd blank (by decide)

/-- A spelling has no blank at either end. -/
theorem Spells.trim (h : Spells text kind) : trim text = text := by
  -- The first character starts a token, and the last is of one of the classes of `Spells.last`.
  refine trim_eq_self ?_ fun c mem => ?_
  · obtain ⟨c, cs, rfl, starts⟩ := h.starts_alone
    rintro d ⟨⟩
    exact not_isBlank_of_startsToken (exists_starts_iff.mp ⟨_, _, starts⟩)
  · rw [Bool.eq_false_iff]
    intro blank
    rcases h.last c mem with identifier | rfl | rfl | rfl | ⟨operator, -⟩
    · simp [not_isIdentifierChar_of_isBlank blank] at identifier
    · exact absurd blank (by decide)
    · exact absurd blank (by decide)
    · exact absurd blank (by decide)
    · have visible := not_isBlank_of_startsToken (c := c) (by simp [startsToken, operator])
      simp [blank] at visible

/-! ## Spellings of one kind -/

/-- The spelling of a name is the name, and is made of the characters of names. -/
theorem Spells.of_identifier {name : String} (h : Spells text (.identifier name)) :
    ∃ c rest, text = c :: rest ∧ name = String.ofList text ∧ isIdentifierStart c = true ∧
      ∀ d ∈ text, isIdentifierChar d = true := by
  generalize hkind : Kind.identifier name = kind at h
  cases h with
  | identifier start run =>
    exact ⟨_, _, rfl, Kind.identifier.inj hkind, start,
      List.forall_mem_cons.mpr ⟨isIdentifierChar_of_isIdentifierStart start, run⟩⟩
  -- The other spellings are of tokens of another kind.
  | bracket bracket => cases bracket <;> cases hkind
  | _ => cases hkind

/-- Every operator is spelled by its symbol. -/
theorem spells_symbol (op : Operator) : Spells op.symbol.toList (.operator op.symbol) := by
  have run (symbol : String) (c : Char) (rest : List Char)
      (heq : symbol = String.ofList (c :: rest)) (all : ∀ d ∈ c :: rest, isOperatorChar d = true) :
      Spells symbol.toList (.operator symbol) := by
    subst heq
    rw [String.toList_ofList]
    exact .operator all
  cases op with
  | _ => exact run _ _ _ rfl (List.all_eq_true.mp (by decide))

/-! ## Texts without delimiters -/

/-- What lengthens a token is neither a delimiter nor a comma. -/
theorem plain_of_lengthens (h : lengthens c = true) : Plain [.list, .group] c ∧ c ∉ [','] :=
  plain_of_class h (by decide)

theorem nested_of_lengthens (h : ∀ c ∈ text, lengthens c = true) :
    Nested [.list, .group] [','] text :=
  .of_plain fun c mem => plain_of_lengthens (h c mem)

theorem nested_of_identifier {name : String} (h : Spells text (.identifier name)) :
    Nested [.list, .group] [','] text := by
  obtain ⟨_, _, -, -, -, all⟩ := h.of_identifier
  exact nested_of_lengthens fun c mem => by simp [lengthens, all c mem]

theorem nested_symbol (op : Operator) : Nested [.list, .group] [','] op.symbol.toList := by
  have all : op.symbol.toList.all lengthens = true := by cases op <;> decide
  exact nested_of_lengthens (List.all_eq_true.mp all)

theorem nested_of_numeral (h : Numeral text) : Nested [.list, .group] [','] text := by
  have digit {d : Char} (h : d.isDigit = true) : lengthens d = true := by
    simp [lengthens, isIdentifierChar_of_isDigit h]
  have tail {rest : List Char} (h : NumeralTail rest) : ∀ d ∈ rest, lengthens d = true := by
    cases h with
    | digits all => exact fun d mem => digit (all d mem)
    | point whole fraction =>
      refine List.forall_mem_append.mpr ⟨fun d mem => digit (whole d mem), ?_⟩
      exact List.forall_mem_cons.mpr ⟨by decide, fun d mem => digit (fraction d mem)⟩
  refine nested_of_lengthens ?_
  cases h with
  | unsigned first rest => exact List.forall_mem_cons.mpr ⟨digit first, tail rest⟩
  | negative first rest =>
    rw [List.forall_mem_cons, List.forall_mem_cons]
    exact ⟨by decide, digit first, tail rest⟩

end Spells

end Clausal.Token
