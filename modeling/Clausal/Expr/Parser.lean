import Clausal.Expr.Basic
import Clausal.Token.Items
import Clausal.Token.Scan

/-!
# Reading expressions

Tokens are read as an expression by the first of these rules that applies:

* a single token is a literal, a variable, a list, a section or a group;
* a sequence is cut in two at the first occurrence of the loosest operator that has something
  on both sides;
* a sequence that starts with a name is the application of the name to the other tokens, each
  of them an operand of its own.

Groups and lists carry raw text, which is scanned when it is read. Reading ends because the
tokens of a text weigh no more than the text is long: a token that is read weighs more than
what is read inside it.
-/

namespace Clausal.Expr

open Token

/-! ## Where a sequence is cut -/

/-- The two sides of the first occurrence of an operator, if neither is empty. -/
def cutAt (op : Operator) (tokens : List Token) : Option (List Token × List Token) :=
  let left := tokens.takeWhile fun token => !token.isOperator op
  match tokens.dropWhile fun token => !token.isOperator op with
  | [] => none
  | _ :: right =>
    -- A later occurrence of the same operator is not tried.
    if left.isEmpty || right.isEmpty then none else some (left, right)

/-- The loosest operator at which a sequence can be cut, and the two sides. -/
def cut (tokens : List Token) : Option (Operator × List Token × List Token) :=
  Operator.all.findSome? fun op => (cutAt op tokens).map fun sides => (op, sides)

theorem eq_append_of_cutAt {op : Operator} {tokens left right : List Token}
    (h : cutAt op tokens = some (left, right)) :
    ∃ token, token.isOperator op = true ∧ tokens = left ++ token :: right := by
  unfold cutAt at h
  dsimp only at h
  split at h
  case h_1 => contradiction
  case h_2 token rest heq =>
    split at h
    · contradiction
    · obtain ⟨rfl, rfl⟩ := h
      refine ⟨token, ?_, ?_⟩
      · -- Dropping stops only at a token that is the operator.
        have := List.head?_dropWhile_not (fun token => !Token.isOperator op token) tokens
        rw [heq] at this
        simpa using this
      · rw [← heq, List.takeWhile_append_dropWhile]

theorem cutAt_of_cut {op : Operator} {tokens left right : List Token}
    (h : cut tokens = some (op, left, right)) : cutAt op tokens = some (left, right) := by
  obtain ⟨_, _, h⟩ := List.exists_of_findSome?_eq_some h
  simp only [Option.map_eq_some_iff, Prod.mk.injEq] at h
  obtain ⟨_, h, rfl, rfl⟩ := h
  exact h

/-- Either side of a cut weighs less than the sequence, by the operator between them. -/
theorem weight_of_cut {op : Operator} {tokens left right : List Token}
    (h : cut tokens = some (op, left, right)) :
    weight left < weight tokens ∧ weight right < weight tokens := by
  obtain ⟨token, _, rfl⟩ := eq_append_of_cutAt (cutAt_of_cut h)
  have := token.kind.weight_pos
  simp only [weight_append, weight_cons]
  omega

/-! ## Reading -/

/-- A failure to read, with the text that is no expression. -/
def refuse {α : Type} (text : List Char) : Except Error α :=
  .error (.unparseable (String.ofList text))

/-- The lexemes of some tokens, with a space between them. -/
def lexemes (tokens : List Token) : List Char :=
  [' '].intercalate (tokens.map Token.lexeme)

mutual

/-- Reads a sequence of tokens as one expression. -/
def ofTokens (tokens : List Token) : Except Error Expr :=
  match tokens with
  | [] => refuse []
  | [token] => ofToken token
  | first :: second :: rest =>
    match _ : cut (first :: second :: rest) with
    | some (op, left, right) => do
      let leftExpr ← ofTokens left
      let rightExpr ← ofTokens right
      return .binary op leftExpr rightExpr
    | none =>
      -- No operator has something on both sides, so this is an application or nothing.
      match first.kind with
      | .identifier name =>
        if (truthName? name).isSome then refuse (lexemes (first :: second :: rest))
        else return .application name (← operands (second :: rest))
      | _ => refuse (lexemes (first :: second :: rest))
termination_by 5 * weight tokens + 3
decreasing_by
  · simp
  · have := weight_of_cut ‹_›; omega
  · have := weight_of_cut ‹_›; omega
  · have := first.kind.weight_pos; simp only [weight_cons]; omega

/-- Reads each token as an expression of its own. -/
def operands (tokens : List Token) : Except Error (List Expr) :=
  match tokens with
  | [] => .ok []
  | token :: others => do
    let operand ← ofToken token
    let operandsAfter ← operands others
    return operand :: operandsAfter
termination_by 5 * weight tokens + 2
decreasing_by
  · simp only [weight_cons]; omega
  · have := token.kind.weight_pos; simp only [weight_cons]; omega

/-- Reads one token. An operator is no expression. -/
def ofToken (token : Token) : Except Error Expr :=
  match _ : token.kind with
  | .number value => .ok (.number value)
  | .string text => .ok (.string text)
  | .identifier name =>
    match truthName? name with
    | some value => .ok (.bool value)
    | none => .ok (.variable name)
  | .operator symbol => .error (.unparseable symbol)
  | .list inner => return .list (← ofItems (items inner))
  | .group inner => ofGroup inner
termination_by 5 * token.kind.weight + 1
decreasing_by
  · have := itemsLength_items_le inner; simp only [*, Kind.weight]; omega
  · simp only [*, Kind.weight]; omega

/-- Reads the inner text of a group. An operator alone, first or last makes the group a
section, and otherwise the group is what stands in it. -/
def ofGroup (inner : List Char) : Except Error Expr :=
  match _ : scan inner with
  | [] => refuse ('(' :: inner ++ [')'])
  | first :: rest =>
    -- An operator in front decides before one at the end is looked for.
    match first.operator? with
    | some op =>
      if rest.isEmpty then return .bareSection op
      else return .rightSection op (← ofTokens rest)
    | none =>
      match (first :: rest).getLast?.bind Token.operator? with
      | some op => return .leftSection (← ofTokens (first :: rest).dropLast) op
      | none => ofTokens (first :: rest)
termination_by 5 * (inner.length + 1)
decreasing_by
  all_goals have size := weight_scan_le inner
  all_goals rw [‹scan inner = _›] at size
  · simp only [weight_cons] at size; omega
  · have := weight_dropLast_le (first :: rest); omega
  · omega

/-- Reads each item of a list as an expression of its own. -/
def ofItems (items : List (List Char)) : Except Error (List Expr) :=
  match items with
  | [] => .ok []
  | item :: others => do
    let expr ← ofChars item
    let exprsAfter ← ofItems others
    return expr :: exprsAfter
termination_by 5 * itemsLength items
decreasing_by
  · simp only [itemsLength_cons]; omega
  · simp only [itemsLength_cons]; omega

/-- Reads a text. A text without tokens is refused as it stands between its blanks. -/
def ofChars (text : List Char) : Except Error Expr :=
  if (scan text).isEmpty then refuse (Text.trim text) else ofTokens (scan text)
termination_by 5 * text.length + 4
decreasing_by have := weight_scan_le text; omega

end

/-- Reads a string as an expression. -/
def parse (text : String) : Except Error Expr :=
  ofChars text.toList

end Clausal.Expr
