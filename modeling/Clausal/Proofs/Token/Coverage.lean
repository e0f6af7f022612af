import Clausal.Proofs.Token.Spelling
import Mathlib.Data.List.Pairwise

/-!
# Nothing is lost in scanning

The tokens of a text lie in it one after another, each is what its characters spell, and between
them only characters are skipped that start no token. What a text loses in scanning is therefore
nothing that a token could be made of.

Main statements:
* `pairwise_scanFrom`: no token reaches into a later one;
* `not_startsToken_of_uncovered`: what no token covers starts none;
* `maximalRun_of_mem_scan`: an operator is as long as it can be, to either side;
* `scan_lossless`: all of it together.
-/

namespace Clausal.Token

open Text

/-- The place where a token ends, the first that it does not cover. -/
def stop (token : Token) : Nat :=
  token.offset + token.lexeme.length

/-- Whether a token covers the character at this place. -/
def Covers (token : Token) (i : Nat) : Prop :=
  token.offset ≤ i ∧ i < token.stop

/-- A nonempty stretch of a text that consists of characters of a class and is neither preceded nor
followed by one. -/
structure MaximalRun (p : Char → Bool) (text : List Char) (start stop : Nat) : Prop where
  nonempty : start < stop
  run : ∀ i, start ≤ i → i < stop → ∃ c, text[i]? = some c ∧ p c = true
  before : ∀ i c, i + 1 = start → text[i]? = some c → p c = false
  after : ∀ c, text[stop]? = some c → p c = false

section Scan

variable {offset : Nat} {afterOperand : Bool} {c : Char} {rest text : List Char} {kind : Kind}
  {length : Nat} {token : Token}

theorem Starts.length_lexeme (h : Starts afterOperand c rest kind length) :
    (c :: rest.take length).length = length + 1 := by
  rw [List.length_cons, List.length_take, Nat.min_eq_left h.length_le]

/-! ## One after another -/

theorem offset_le_of_mem_scanFrom (h : token ∈ scanFrom offset afterOperand text) :
    offset ≤ token.offset := by
  obtain ⟨before, _, _, _, _, hoffset, _⟩ := exists_of_mem_scanFrom h
  omega

/-- No token reaches into a later one. -/
theorem pairwise_scanFrom (offset : Nat) (afterOperand : Bool) (text : List Char) :
    (scanFrom offset afterOperand text).Pairwise fun token later => token.stop ≤ later.offset := by
  fun_induction scanFrom offset afterOperand text with
  | case1 => exact .nil
  | case2 _ _ _ _ _ ih => exact ih
  | case3 offset afterOperand c rest kind length h ih =>
    -- The others start behind the characters that the first token takes.
    refine .cons (fun later mem => ?_) ih
    have first := (recognize_eq_some_iff.mp h).length_lexeme
    have next := offset_le_of_mem_scanFrom mem
    simp only [stop, first]
    omega

theorem not_startsToken_of_forall_scanFrom {i : Nat} (at_i : text[i]? = some c)
    (uncovered : ∀ token ∈ scanFrom offset afterOperand text, ¬ token.Covers (offset + i)) :
    startsToken c = false := by
  -- Along the recursion of the scanner: a character is skipped, or a token takes some of them.
  fun_induction scanFrom offset afterOperand text generalizing i with
  | case1 => simp at at_i
  | case2 offset afterOperand d rest h ih =>
    cases i with
    | zero =>
      obtain rfl : d = c := by simpa using at_i
      exact recognize_eq_none_iff.mp h
    | succ i =>
      refine ih (i := i) (by simpa using at_i) fun token mem => ?_
      have := uncovered token mem
      rwa [show offset + 1 + i = offset + (i + 1) by omega]
  | case3 offset afterOperand d rest kind length h ih =>
    have first := (recognize_eq_some_iff.mp h).length_lexeme
    rw [List.forall_mem_cons] at uncovered
    -- The first token covers what stands before its end, and the others are left for the rest.
    have beyond : length + 1 ≤ i := by
      by_contra inside
      exact uncovered.1 ⟨Nat.le_add_right _ _, by simp only [stop, first]; omega⟩
    obtain ⟨j, rfl⟩ := Nat.exists_eq_add_of_le beyond
    refine ih (i := j) ?_ fun token mem => ?_
    · rw [List.getElem?_drop, ← at_i, show length + 1 + j = length + j + 1 by omega,
        List.getElem?_cons_succ]
    · have := uncovered.2 token mem
      rwa [show offset + 1 + length + j = offset + (length + 1 + j) by omega]

/-- What no token covers starts none. -/
theorem not_startsToken_of_uncovered {i : Nat} (at_i : text[i]? = some c)
    (uncovered : ∀ token ∈ scan text, ¬ token.Covers i) : startsToken c = false := by
  rw [← Nat.zero_add i] at uncovered
  exact not_startsToken_of_forall_scanFrom at_i uncovered

/-! ## Where a token stands -/

/-- The characters of a text from the start of a token on. -/
theorem exists_getElem?_of_mem_scan (h : token ∈ scan text) :
    ∃ c rest length afterOperand, Starts afterOperand c rest token.kind length ∧
      token.lexeme = c :: rest.take length ∧ token.stop = token.offset + (length + 1) ∧
      ∀ i, text[token.offset + i]? = (c :: rest)[i]? := by
  obtain ⟨before, c, rest, length, rfl, hoffset, hlexeme, afterOperand, starts⟩ :=
    exists_of_mem_scan h
  refine ⟨c, rest, length, afterOperand, starts, hlexeme, ?_, fun i => ?_⟩
  · rw [stop, hlexeme, starts.length_lexeme]
  · rw [hoffset, List.getElem?_append_right (Nat.le_add_right _ _), Nat.add_sub_cancel_left]

/-- The lexeme of a token is the stretch of the text that the token covers. -/
theorem lexeme_eq_of_mem_scan (h : token ∈ scan text) :
    token.lexeme = (text.drop token.offset).take token.lexeme.length ∧
      token.stop ≤ text.length := by
  obtain ⟨before, c, rest, length, rfl, hoffset, hlexeme, _, starts⟩ := exists_of_mem_scan h
  have bound := starts.length_le
  have size : token.lexeme.length = length + 1 := by rw [hlexeme, starts.length_lexeme]
  rw [size, hoffset, List.drop_left, List.take_succ_cons, stop, size, hoffset, List.length_append,
    List.length_cons]
  exact ⟨hlexeme, by omega⟩

/-- Of two different tokens of a text one stands before the other. -/
theorem apart_of_mem_scan {other : Token} (h : token ∈ scan text) (hother : other ∈ scan text) :
    token = other ∨ token.stop ≤ other.offset ∨ other.stop ≤ token.offset := by
  -- Tokens stand in their order, and apart is the same in both orders.
  let Apart (token other : Token) : Prop :=
    token = other ∨ token.stop ≤ other.offset ∨ other.stop ≤ token.offset
  have : Std.Symm Apart := ⟨fun _ _ apart => apart.imp Eq.symm Or.symm⟩
  have pairwise : (scan text).Pairwise Apart :=
    (pairwise_scanFrom 0 false text).imp fun before => .inr (.inl before)
  -- For a symmetric relation it is enough to look at the pairs in order.
  exact List.Pairwise.forall_of_forall (fun _ _ => .inl rfl) pairwise h hother

/-! ## Operators -/

/-- After a token that ends with an operator character comes no other one. Only operators end like
that, and they are as long as they can be. -/
theorem Starts.ends (h : Starts afterOperand c rest kind length) {d e : Char}
    (last : (c :: rest.take length).getLast? = some d) (operator : isOperatorChar d = true)
    (next : rest[length]? = some e) : isOperatorChar e = false := by
  rcases h.spells with spelled | ⟨-, whole⟩
  · have noOperand : kind.isOperand = false := by
      -- Identifiers, quotes and brackets do not end with an operator character.
      rcases spelled.last d last with identifier | rfl | rfl | rfl | ⟨-, noOperand⟩
      · simp [not_isIdentifierChar_of_isOperatorChar operator] at identifier
      · exact absurd operator (by decide)
      · exact absurd operator (by decide)
      · exact absurd operator (by decide)
      · exact noOperand
    cases h with
    | operator => exact not_of_getElem?_run next
    | _ => contradiction
  -- What is left open reaches to the end of the text.
  · rw [List.getElem?_eq_none whole] at next
    contradiction

/-- The character behind an operator-like end of a token is no operator character. -/
theorem ends_of_mem_scan (h : token ∈ scan text) {i : Nat} {d e : Char} (end_i : i + 1 = token.stop)
    (last : text[i]? = some d) (operator : isOperatorChar d = true)
    (next : text[token.stop]? = some e) : isOperatorChar e = false := by
  obtain ⟨c, rest, length, afterOperand, starts, hlexeme, hstop, place⟩ :=
    exists_getElem?_of_mem_scan h
  obtain rfl : i = token.offset + length := by omega
  rw [place] at last
  rw [hstop, place, List.getElem?_cons_succ] at next
  refine starts.ends ?_ operator next
  rw [List.getLast?_eq_getElem?, starts.length_lexeme, Nat.add_sub_cancel, ← List.take_succ_cons,
    List.getElem?_take_of_lt (Nat.lt_succ_self length), last]

/-- **An operator is as long as it can be, to either side.** -/
theorem maximalRun_of_mem_scan (h : token ∈ scan text) (noOperand : token.kind.isOperand = false) :
    MaximalRun isOperatorChar text token.offset token.stop := by
  obtain ⟨c, rest, length, afterOperand, starts, hlexeme, hstop, place⟩ :=
    exists_getElem?_of_mem_scan h
  obtain ⟨first, run, ended⟩ : isOperatorChar c = true ∧
      (∀ d ∈ rest.take length, isOperatorChar d = true) ∧
      ∀ d, rest[length]? = some d → isOperatorChar d = false := by
    -- A token that is no operand is an operator, and that is a run of its class.
    generalize token.kind = kind at starts noOperand
    cases starts with
    | operator _ hc =>
      rw [take_run]
      exact ⟨hc, fun d => List.mem_takeWhile_imp, fun d => not_of_getElem?_run⟩
    | _ => contradiction
  refine ⟨by omega, fun i low high => ?run, fun i d hi at_i => ?before, fun d next => ?after⟩
  case run =>
    obtain ⟨i, rfl⟩ := Nat.exists_eq_add_of_le low
    rw [place]
    cases i with
    | zero => exact ⟨c, rfl, first⟩
    | succ i =>
      have inside : i < (rest.take length).length := by
        rw [List.length_take, Nat.min_eq_left starts.length_le]
        omega
      refine ⟨(rest.take length)[i], ?_, run _ (List.getElem_mem inside)⟩
      rw [List.getElem?_cons_succ, ← List.getElem?_take_of_lt (j := length) (by omega),
        List.getElem?_eq_getElem inside]
  case before =>
    -- An operator character before it would belong to a token that ends here.
    rw [Bool.eq_false_iff]
    intro operator
    by_cases covered : ∃ other ∈ scan text, other.Covers i
    · obtain ⟨other, mem, low, high⟩ := covered
      have here : other.stop = token.offset := by
        rcases apart_of_mem_scan h mem with rfl | later | before <;> omega
      have next : text[other.stop]? = some c := by rw [here]; exact place 0
      simp [ends_of_mem_scan mem (hi.trans here.symm) at_i operator next] at first
    -- If no token covered it, it would start none, but operator characters start tokens.
    · have skipped := not_startsToken_of_uncovered at_i fun other mem covers =>
        covered ⟨other, mem, covers⟩
      simp [startsToken, operator] at skipped
  case after =>
    rw [hstop, place, List.getElem?_cons_succ] at next
    exact ended d next

/-! ## The whole text -/

/-- **Scanning loses nothing.** The tokens of a text follow one another without overlap. Each covers
the characters of its lexeme, which spell it out; only a string or a bracket that nothing closes is
left open, and it runs to the end of the text. So its lexeme decides what a token is. Operators are
maximal runs, and no token starts with a character that is left out. -/
theorem scan_lossless (text : List Char) :
    ((scan text).Pairwise fun token later =>
      token.offset < later.offset ∧ token.stop ≤ later.offset) ∧
    (∀ token ∈ scan text, token.stop ≤ text.length ∧
      token.lexeme = (text.drop token.offset).take token.lexeme.length) ∧
    (∀ token ∈ scan text, Spells token.lexeme token.kind ∨
      Unclosed token.lexeme token.kind ∧ token.stop = text.length) ∧
    (∀ token ∈ scan text, ∀ other, ∀ twin ∈ scan other,
      twin.lexeme = token.lexeme → twin.kind = token.kind) ∧
    (∀ token ∈ scan text, ∀ symbol, token.kind = .operator symbol →
      MaximalRun isOperatorChar text token.offset token.stop) ∧
    (∀ i c, text[i]? = some c → (∀ token ∈ scan text, ¬ token.Covers i) →
      startsToken c = false) := by
  refine ⟨?order, fun token mem => (lexeme_eq_of_mem_scan mem).symm, ?spelled, ?twins, ?operators,
    fun i c => not_startsToken_of_uncovered⟩
  case order =>
    refine (pairwise_scanFrom 0 false text).imp_of_mem fun {token later} mem _ before => ?_
    obtain ⟨_, _, length, _, _, _, hstop, _⟩ := exists_getElem?_of_mem_scan mem
    exact ⟨by omega, before⟩
  case spelled =>
    intro token mem
    obtain ⟨before, c, rest, length, htext, hoffset, hlexeme, _, starts⟩ := exists_of_mem_scan mem
    have bound := starts.length_le
    rw [hlexeme]
    refine starts.spells.imp_right fun ⟨unclosed, whole⟩ => ⟨unclosed, ?_⟩
    rw [stop, hlexeme, starts.length_lexeme, hoffset, htext, List.length_append, List.length_cons]
    omega
  case twins =>
    intro token mem other twin hother same
    -- The lexeme alone is scanned as the token, so both tokens are what is scanned from it.
    have alone := (scan_lexeme mem).symm.trans (same ▸ scan_lexeme hother)
    exact congrArg Token.kind (List.cons.inj alone).1 |>.symm
  case operators =>
    intro token mem symbol hkind
    exact maximalRun_of_mem_scan mem (by rw [hkind]; rfl)

end Scan

/-- A text with a run of two operator characters, a comma that is left out, and a string that is
left open. -/
theorem scan_lossless_open :
    ⟨.operator "->", ['-', '>'], 2⟩ ∈ scan "f ->, \"a".toList ∧
      MaximalRun isOperatorChar "f ->, \"a".toList 2 4 ∧
      startsToken ',' = false ∧
      (scan "f ->, \"a".toList).getLast? = some ⟨.string "a", ['"', 'a'], 6⟩ := by
  have tokens : scan "f ->, \"a".toList =
      [⟨.identifier "f", ['f'], 0⟩, ⟨.operator "->", ['-', '>'], 2⟩,
        ⟨.string "a", ['"', 'a'], 6⟩] := by decide +kernel
  obtain ⟨-, -, -, -, operators, skipped⟩ := scan_lossless "f ->, \"a".toList
  rw [tokens] at operators skipped ⊢
  refine ⟨by decide, operators ⟨.operator "->", ['-', '>'], 2⟩ (by decide) "->" rfl, ?_, rfl⟩
  exact skipped 4 ',' (by decide) (by simp [Covers, stop])

end Clausal.Token
