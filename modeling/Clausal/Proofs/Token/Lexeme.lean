import Clausal.Proofs.Token.Numeral

/-!
# The lexeme of a token

Which token starts at a place is decided by the characters that belong to it. What follows them
ends the token, and what stands before only tells a sign from the operator. So the lexeme of a
token, taken out of its text, is that token and nothing else.

Main statements:
* `recognize_eq_some_iff`: the six ways in which a token starts;
* `recognize_eq_none_iff`: the characters that no token starts with;
* `exists_cut_of_mem_scanFrom`: a text can be cut before each of its tokens;
* `exists_of_mem_scan`: a token covers the characters from its offset on;
* `scan_lexeme`: scanned alone, the lexeme of a token is that token;
* `scan_identifier`: a text that starts like an identifier starts with an identifier token.
-/

namespace Clausal.Token

open Text

/-! ## The ways in which a token starts -/

/-- `Starts afterOperand c rest kind length`: with the character `c`, followed by `rest`, starts a
token of this kind that takes so many characters of the rest. -/
inductive Starts (afterOperand : Bool) : Char → List Char → Kind → Nat → Prop where
  | list (rest : List Char) :
      Starts afterOperand '[' rest (.list (bracketInner '[' ']' 0 false rest))
        (enclosedLength (bracketInner '[' ']' 0 false rest) rest)
  | group (rest : List Char) :
      Starts afterOperand '(' rest (.group (bracketInner '(' ')' 0 false rest))
        (enclosedLength (bracketInner '(' ')' 0 false rest) rest)
  | string (rest : List Char) :
      Starts afterOperand '"' rest (.string (String.ofList (stringInner rest)))
        (enclosedLength (stringInner rest) rest)
  | number {c : Char} {rest : List Char} (h : startsNumeral afterOperand c rest = true) :
      Starts afterOperand c rest (.number (Decimal.read (c :: rest.take (numeralLength rest))))
        (numeralLength rest)
  | operator {c : Char} {rest : List Char} (hn : startsNumeral afterOperand c rest = false)
      (h : isOperatorChar c = true) :
      Starts afterOperand c rest (.operator (String.ofList (c :: rest.takeWhile isOperatorChar)))
        (rest.takeWhile isOperatorChar).length
  | identifier {c : Char} (rest : List Char) (h : isIdentifierStart c = true) :
      Starts afterOperand c rest
        (.identifier (String.ofList (c :: rest.takeWhile isIdentifierChar)))
        (rest.takeWhile isIdentifierChar).length

section Recognize

variable {afterOperand : Bool} {c : Char} {rest : List Char} {kind : Kind} {length : Nat}

/-- A numeral starts with a digit, or with a minus sign that is no operator. -/
theorem startsNumeral_iff : startsNumeral afterOperand c rest = true ↔ c.isDigit = true ∨
    c = '-' ∧ afterOperand = false ∧ rest.head?.any Char.isDigit = true := by
  simp [startsNumeral, and_assoc]

theorem not_startsNumeral_of_isIdentifierStart (h : isIdentifierStart c = true) :
    startsNumeral afterOperand c rest = false := by
  -- Neither a digit nor a minus sign starts an identifier.
  rw [← Bool.not_eq_true, startsNumeral_iff, not_isDigit_of_isIdentifierStart h]
  rintro (digit | ⟨rfl, -⟩)
  · contradiction
  · exact absurd h (by decide)

/-! ### One kind of token after the other -/

/-- A character that opens nothing starts what its class says. -/
theorem recognize_of_ne (list : c ≠ '[') (group : c ≠ '(') (string : c ≠ '"') :
    recognize afterOperand c rest =
      if startsNumeral afterOperand c rest then
        some (.number (Decimal.read (c :: rest.take (numeralLength rest))), numeralLength rest)
      else if isOperatorChar c then
        some (.operator (String.ofList (c :: rest.takeWhile isOperatorChar)),
          (rest.takeWhile isOperatorChar).length)
      else if isIdentifierStart c then
        some (.identifier (String.ofList (c :: rest.takeWhile isIdentifierChar)),
          (rest.takeWhile isIdentifierChar).length)
      else none := by
  simp only [recognize, if_neg list, if_neg group, if_neg string]

/-- No bracket and no quote is in one of the classes, so the order in which the characters are
compared and the classes are asked makes no difference. -/
theorem ne_of_class (h : startsNumeral afterOperand c rest = true ∨ isOperatorChar c = true ∨
    isIdentifierStart c = true) : c ≠ '[' ∧ c ≠ '(' ∧ c ≠ '"' := by
  -- A bracket or a quote is in none of the three classes, so it is not `c`.
  have separate (opener : Char) (outside : startsNumeral afterOperand opener rest = false ∧
      isOperatorChar opener = false ∧ isIdentifierStart opener = false) : c ≠ opener := by
    rintro rfl
    simp [outside] at h
  exact ⟨separate _ ⟨rfl, by decide, by decide⟩, separate _ ⟨rfl, by decide, by decide⟩,
    separate _ ⟨rfl, by decide, by decide⟩⟩

theorem recognize_number (h : startsNumeral afterOperand c rest = true) :
    recognize afterOperand c rest =
      some (.number (Decimal.read (c :: rest.take (numeralLength rest))), numeralLength rest) := by
  obtain ⟨list, group, string⟩ := ne_of_class (.inl h)
  rw [recognize_of_ne list group string, if_pos h]

theorem recognize_operator (noNumeral : startsNumeral afterOperand c rest = false)
    (h : isOperatorChar c = true) :
    recognize afterOperand c rest =
      some (.operator (String.ofList (c :: rest.takeWhile isOperatorChar)),
        (rest.takeWhile isOperatorChar).length) := by
  obtain ⟨list, group, string⟩ :=
    @ne_of_class afterOperand c rest (.inr (.inl h))
  rw [recognize_of_ne list group string, if_neg (by simp [noNumeral]), if_pos h]

theorem recognize_identifier (h : isIdentifierStart c = true) :
    recognize afterOperand c rest =
      some (.identifier (String.ofList (c :: rest.takeWhile isIdentifierChar)),
        (rest.takeWhile isIdentifierChar).length) := by
  obtain ⟨list, group, string⟩ :=
    @ne_of_class afterOperand c rest (.inr (.inr h))
  -- An identifier starts neither like a numeral nor like an operator.
  have noNumeral := @not_startsNumeral_of_isIdentifierStart afterOperand c rest h
  have noOperator := not_isOperatorChar_of_isIdentifierStart h
  rw [recognize_of_ne list group string, if_neg (by simp [noNumeral]),
    if_neg (by simp [noOperator]), if_pos h]

/-- A token that starts is recognized, whatever its kind. -/
theorem Starts.recognize (h : Starts afterOperand c rest kind length) :
    recognize afterOperand c rest = some (kind, length) := by
  cases h with
  | list | group | string => rfl
  | number h => exact recognize_number h
  | operator noNumeral h => exact recognize_operator noNumeral h
  | identifier _ h => exact recognize_identifier h

/-- Where a token is recognized, one starts. -/
theorem exists_starts_of_recognize (h : (recognize afterOperand c rest).isSome = true) :
    ∃ kind length, Starts afterOperand c rest kind length := by
  -- The characters that open something come first, then the classes in the order of the scanner.
  by_cases list : c = '['
  · subst list
    exact ⟨_, _, .list rest⟩
  by_cases group : c = '('
  · subst group
    exact ⟨_, _, .group rest⟩
  by_cases string : c = '"'
  · subst string
    exact ⟨_, _, .string rest⟩
  cases number : startsNumeral afterOperand c rest with
  | true => exact ⟨_, _, .number number⟩
  | false =>
    cases operator : isOperatorChar c with
    | true => exact ⟨_, _, .operator number operator⟩
    | false =>
      cases identifier : isIdentifierStart c with
      | true => exact ⟨_, _, .identifier rest identifier⟩
      | false =>
        rw [recognize_of_ne list group string] at h
        simp [number, operator, identifier] at h

/-- The six ways in which a token starts exclude each other. -/
theorem recognize_eq_some_iff :
    recognize afterOperand c rest = some (kind, length) ↔
      Starts afterOperand c rest kind length := by
  refine ⟨fun h => ?_, Starts.recognize⟩
  obtain ⟨kind', length', starts⟩ := exists_starts_of_recognize (by rw [h]; rfl)
  -- What is recognized is determined, so it is the token that starts.
  obtain ⟨rfl, rfl⟩ := Prod.mk.inj (Option.some.inj (h.symm.trans starts.recognize))
  exact starts

theorem Starts.length_le (h : Starts afterOperand c rest kind length) : length ≤ rest.length :=
  (recognize_length (recognize_eq_some_iff.mpr h)).1

/-! ### The characters that tokens start with -/

/-- A character that a token starts with: a digit, an operator character, a letter or an
underscore, a quote or an opening bracket. -/
def startsToken (c : Char) : Bool :=
  c.isDigit || isOperatorChar c || isAlphabetic c || c == '_' || c == '"' || c == '[' || c == '('

/-- A token starts with every character that one can start with, and with no other. -/
theorem exists_starts_iff :
    (∃ kind length, Starts afterOperand c rest kind length) ↔ startsToken c = true := by
  constructor
  · rintro ⟨kind, length, h⟩
    cases h with
    | list | group | string => rfl
    | number h =>
      rcases startsNumeral_iff.mp h with digit | ⟨rfl, -⟩
      · simp [startsToken, digit]
      · rfl
    | operator _ h => simp [startsToken, h]
    | identifier _ h =>
      rw [isIdentifierStart, Bool.or_eq_true] at h
      -- `startsToken` lists letters and the underscore apart.
      rcases h with letter | underscore <;> simp [startsToken, *]
  · intro h
    cases numeral : startsNumeral afterOperand c rest with
    | true => exact ⟨_, _, .number numeral⟩
    | false =>
      -- Without a numeral, the character is no digit, and one of the other kinds starts.
      have noDigit : c.isDigit = false := by
        rw [Bool.eq_false_iff]
        intro digit
        simp [startsNumeral_iff.mpr (.inl digit)] at numeral
      simp only [startsToken, noDigit, Bool.false_or, Bool.or_eq_true, beq_iff_eq] at h
      rcases h with ((((operator | letter) | rfl) | rfl) | rfl) | rfl
      · exact ⟨_, _, .operator numeral operator⟩
      · exact ⟨_, _, .identifier rest (by simp [isIdentifierStart, letter])⟩
      · exact ⟨_, _, .identifier rest (by decide)⟩
      · exact ⟨_, _, .string rest⟩
      · exact ⟨_, _, .list rest⟩
      · exact ⟨_, _, .group rest⟩

theorem recognize_eq_none_iff : recognize afterOperand c rest = none ↔ startsToken c = false := by
  rw [← Bool.not_eq_true, ← @exists_starts_iff afterOperand c rest,
    Option.eq_none_iff_forall_ne_some]
  simp only [ne_eq, Prod.forall, recognize_eq_some_iff, not_exists]

end Recognize

/-! ## Taking a lexeme out of its text -/

/-- An inner text does not depend on what follows the bracket that closes it. -/
theorem bracketInner_take {opener closer : Char} {depth : Nat} {inString : Bool}
    {rest : List Char} {n : Nat}
    (h : (bracketInner opener closer depth inString rest).length < n ∨ rest.length ≤ n) :
    bracketInner opener closer depth inString (rest.take n) =
      bracketInner opener closer depth inString rest := by
  -- Along the recursion `n` shrinks with the text, so the bound has to be kept for every `n`.
  fun_induction bracketInner opener closer depth inString rest generalizing n with
  | case1 => rw [List.take_nil, bracketInner]
  | _ =>
    -- The first character is looked at alike, and one less is taken from what follows it.
    cases n with
    | zero => simp at h
    | succ n =>
      rw [List.take_succ_cons]
      simp only [bracketInner]
      grind

theorem lt_or_le_of_enclosedLength_le {inner rest : List Char} {n : Nat}
    (h : enclosedLength inner rest ≤ n) : inner.length < n ∨ rest.length ≤ n := by
  unfold enclosedLength at h
  omega

theorem enclosedLength_take {inner rest : List Char} {n : Nat}
    (h : enclosedLength inner rest ≤ n) :
    enclosedLength inner (rest.take n) = enclosedLength inner rest := by
  unfold enclosedLength at h ⊢
  rw [List.length_take]
  omega

theorem stringInner_take {rest : List Char} {n : Nat}
    (h : enclosedLength (stringInner rest) rest ≤ n) :
    stringInner (rest.take n) = stringInner rest :=
  takeWhile_take_of_le (Nat.le_trans (length_le_enclosedLength (length_stringInner_le rest)) h)

/-! ### Numerals -/

/-- A numeral starts alike without what follows it. -/
theorem startsNumeral_take {afterOperand : Bool} {c : Char} {rest : List Char} {n : Nat}
    (h : numeralLength rest ≤ n) :
    startsNumeral afterOperand c rest = true →
      startsNumeral afterOperand c (rest.take n) = true := by
  simp only [startsNumeral_iff]
  refine Or.imp_right ?_
  rintro ⟨sign, noOperand, digit⟩
  -- A sign is followed by a digit, so the numeral takes at least this one.
  have hpos := numeralLength_pos digit
  rw [List.head?_take, if_neg (by omega)]
  exact ⟨sign, noOperand, digit⟩

/-- What is no numeral does not become one without what follows it. -/
theorem startsNumeral_of_take {afterOperand : Bool} {c : Char} {rest : List Char} {n : Nat}
    (h : startsNumeral afterOperand c (rest.take n) = true) :
    startsNumeral afterOperand c rest = true := by
  rw [startsNumeral_iff, List.head?_take] at h
  rw [startsNumeral_iff]
  refine h.imp_right ?_
  rintro ⟨sign, noOperand, digit⟩
  -- If nothing is taken, there is no digit behind the sign.
  split at digit
  · contradiction
  · exact ⟨sign, noOperand, digit⟩

/-- No numeral starts a run of operator characters. -/
theorem not_startsNumeral_of_isOperatorChar {afterOperand : Bool} {c : Char} {rest : List Char}
    (first : isOperatorChar c = true) (run : ∀ d ∈ rest, isOperatorChar d = true) :
    startsNumeral afterOperand c rest = false := by
  rw [← Bool.not_eq_true, startsNumeral_iff, not_isDigit_of_isOperatorChar first]
  rintro (digit | ⟨-, -, digit⟩)
  -- A digit is no operator character, neither as the first one nor behind a sign.
  · contradiction
  · obtain ⟨d, mem, digit⟩ := (Option.any_eq_true _ _).mp digit
    rw [not_isDigit_of_isOperatorChar (run d (List.mem_of_mem_head? mem))] at digit
    contradiction

/-! ### Tokens -/

section Starts

variable {afterOperand : Bool} {c : Char} {rest : List Char} {kind : Kind} {length n : Nat}

/-- A token starts alike without what follows it. -/
theorem Starts.take (h : Starts afterOperand c rest kind length) (hn : length ≤ n) :
    Starts afterOperand c (rest.take n) kind length := by
  -- The class of the first character is untouched; what has to be shown is that as many characters
  -- are taken, and that the payload is read from the same ones.
  cases h with
  | list =>
    have h := @Starts.list afterOperand (rest.take n)
    rwa [bracketInner_take (lt_or_le_of_enclosedLength_le hn), enclosedLength_take hn] at h
  | group =>
    have h := @Starts.group afterOperand (rest.take n)
    rwa [bracketInner_take (lt_or_le_of_enclosedLength_le hn), enclosedLength_take hn] at h
  | string =>
    have h := @Starts.string afterOperand (rest.take n)
    rwa [stringInner_take hn, enclosedLength_take hn] at h
  | number hc =>
    have h := Starts.number (startsNumeral_take hn hc)
    rwa [numeralLength_take hn, List.take_take, Nat.min_eq_left hn] at h
  | operator noNumeral hc =>
    have noNumeral : startsNumeral afterOperand c (rest.take n) = false := by
      rw [Bool.eq_false_iff] at noNumeral ⊢
      exact fun starts => noNumeral (startsNumeral_of_take starts)
    have h := Starts.operator noNumeral hc
    rwa [takeWhile_take_of_le hn] at h
  | identifier _ hc =>
    have h := @Starts.identifier afterOperand c (rest.take n) hc
    rwa [takeWhile_take_of_le hn] at h

/-- A token that nothing follows starts alike wherever it stands. -/
theorem Starts.anywhere (h : Starts afterOperand c rest kind length)
    (whole : rest.length ≤ length) : Starts false c rest kind length := by
  cases h with
  | list => exact .list rest
  | group => exact .group rest
  | string => exact .string rest
  | number hc =>
    -- A sign is one wherever it stands.
    refine .number (startsNumeral_iff.mpr ((startsNumeral_iff.mp hc).imp_right ?_))
    rintro ⟨sign, -, digit⟩
    exact ⟨sign, rfl, digit⟩
  | operator _ hc =>
    -- The whole rest is operator characters, so no digit can turn the first one into a sign.
    have run := (List.takeWhile_prefix isOperatorChar).eq_of_length_le whole
    refine .operator (not_startsNumeral_of_isOperatorChar hc fun d mem => ?_) hc
    rw [← run] at mem
    exact List.mem_takeWhile_imp mem
  | identifier _ hc => exact .identifier rest hc

/-- The lexeme of an operator is its symbol. -/
theorem Starts.lexeme_of_operator {symbol : String}
    (h : Starts afterOperand c rest (.operator symbol) length) :
    c :: rest.take length = symbol.toList := by
  cases h with
  | operator => rw [take_run, String.toList_ofList]

end Starts

/-! ## Tokens of a text -/

section Scan

variable {offset : Nat} {afterOperand : Bool} {c : Char} {rest text : List Char} {kind : Kind}
  {length : Nat} {token : Token}

theorem symbol?_eq_some_iff {symbol : String} :
    token.symbol? = some symbol ↔ token.kind = .operator symbol := by
  rw [symbol?]
  cases token.kind <;> simp [Kind.symbol?]

theorem scanFrom_of_starts (h : Starts afterOperand c rest kind length) :
    scanFrom offset afterOperand (c :: rest) = ⟨kind, c :: rest.take length, offset⟩ ::
      scanFrom (offset + 1 + length) kind.isOperand (rest.drop length) := by
  rw [scanFrom, recognize_eq_some_iff.mpr h]

theorem scanFrom_skip (h : startsToken c = false) :
    scanFrom offset afterOperand (c :: rest) = scanFrom (offset + 1) afterOperand rest := by
  rw [scanFrom, recognize_eq_none_iff.mpr h]

/-- A token that starts a text starts the same text without its end. -/
theorem Starts.scanFrom_append {taken before after : List Char}
    (h : Starts afterOperand c (taken ++ (before ++ after)) kind taken.length) :
    scanFrom offset afterOperand (c :: (taken ++ before)) = ⟨kind, c :: taken, offset⟩ ::
      scanFrom (offset + 1 + taken.length) kind.isOperand before := by
  -- Cut behind `before`, the text still has all the characters of the token.
  have alike := h.take (n := (taken ++ before).length) (by rw [List.length_append]; omega)
  rw [← List.append_assoc, List.take_left] at alike
  rw [scanFrom_of_starts alike, List.take_left, List.drop_left]

/-- **A text can be cut before each of its tokens.** What stands before the token is scanned alike
without it and what follows it. -/
theorem exists_cut_of_mem_scanFrom (h : token ∈ scanFrom offset afterOperand text) :
    ∃ before c rest length, text = before ++ c :: rest ∧
      token.offset = offset + before.length ∧ token.lexeme = c :: rest.take length ∧
      (∃ afterOperand, Starts afterOperand c rest token.kind length) ∧
      scanFrom offset afterOperand text = scanFrom offset afterOperand before ++
        token :: scanFrom (token.offset + 1 + length) token.kind.isOperand (rest.drop length) := by
  -- Either the first character starts no token, or the token is the first one, or it is one of
  -- those after it.
  fun_induction scanFrom offset afterOperand text with
  | case1 => contradiction
  | case2 offset afterOperand c rest hc ih =>
    obtain ⟨before, d, after, length, rfl, hoffset, hlexeme, starts, tokens⟩ := ih h
    refine ⟨c :: before, d, after, length, rfl, ?_, hlexeme, starts, ?_⟩
    · rw [hoffset, List.length_cons]
      omega
    · -- What starts no token in the whole text starts none in its beginning.
      rw [scanFrom_skip (recognize_eq_none_iff.mp hc), tokens]
  | case3 offset afterOperand c rest kind length hc ih =>
    have first := recognize_eq_some_iff.mp hc
    rcases List.mem_cons.mp h with rfl | h
    · refine ⟨[], c, rest, length, rfl, rfl, rfl, ⟨afterOperand, first⟩, ?_⟩
      rw [scanFrom, List.nil_append]
    · obtain ⟨before, d, after, length', hrest, hoffset, hlexeme, starts, tokens⟩ := ih h
      -- Naming the characters of the first token turns `take` and `drop` of the rest into `++`.
      obtain ⟨taken, rfl, rfl⟩ : ∃ taken, taken ++ (before ++ d :: after) = rest ∧
          taken.length = length :=
        ⟨rest.take length, by rw [← hrest, List.take_append_drop],
          List.length_take_of_le (recognize_length hc).1⟩
      refine ⟨c :: (taken ++ before), d, after, length', by simp, ?_, hlexeme, starts, ?_⟩
      · rw [hoffset, List.length_cons, List.length_append]
        omega
      · rw [tokens, first.scanFrom_append, List.take_left, List.cons_append]

/-- A token covers the characters from its offset on, and starts with the first of them. -/
theorem exists_of_mem_scanFrom (h : token ∈ scanFrom offset afterOperand text) :
    ∃ before c rest length, text = before ++ c :: rest ∧ token.offset = offset + before.length ∧
      token.lexeme = c :: rest.take length ∧
      ∃ afterOperand, Starts afterOperand c rest token.kind length := by
  obtain ⟨before, c, rest, length, htext, hoffset, hlexeme, starts, -⟩ :=
    exists_cut_of_mem_scanFrom h
  exact ⟨before, c, rest, length, htext, hoffset, hlexeme, starts⟩

theorem exists_of_mem_scan (h : token ∈ scan text) :
    ∃ before c rest length, text = before ++ c :: rest ∧ token.offset = before.length ∧
      token.lexeme = c :: rest.take length ∧
      ∃ afterOperand, Starts afterOperand c rest token.kind length := by
  obtain ⟨before, c, rest, length, htext, hoffset, h⟩ := exists_of_mem_scanFrom h
  exact ⟨before, c, rest, length, htext, hoffset.trans (Nat.zero_add _), h⟩

/-- **Scanned alone, the lexeme of a token is that token.** -/
theorem scan_lexeme (h : token ∈ scan text) :
    scan token.lexeme = [⟨token.kind, token.lexeme, 0⟩] := by
  obtain ⟨before, c, rest, length, -, -, hlexeme, afterOperand, hstarts⟩ := exists_of_mem_scan h
  -- A lexeme is cut behind its last character, and nothing stands before it.
  have alone := (hstarts.take (Nat.le_refl length)).anywhere (List.length_take_le length rest)
  rw [hlexeme, scan, scanFrom_of_starts alone, List.take_take, Nat.min_self, List.drop_take_self,
    scanFrom]

/-- A text that starts like an identifier starts with an identifier token. -/
theorem scan_identifier (h : isIdentifierStart c = true) (rest : List Char) :
    ∃ others, scan (c :: rest) =
      ⟨.identifier (String.ofList (c :: rest.takeWhile isIdentifierChar)),
        c :: rest.takeWhile isIdentifierChar, 0⟩ :: others := by
  rw [scan, scanFrom_of_starts (.identifier rest h), take_run]
  exact ⟨_, rfl⟩

end Scan

end Clausal.Token
