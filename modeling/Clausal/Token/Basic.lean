import Clausal.Number.Shortest
import Clausal.Operator

/-!
# Tokens

A token is a piece of a text with a kind. Brackets are not tokens of their own: a bracketed
list or a group in parentheses is one token that carries its raw inner text, to be scanned
when it is read.
-/

namespace Clausal

/-- What a token is, with what it carries. -/
inductive Token.Kind where
  /-- A numeral and the number it denotes. -/
  | number (value : Float)
  /-- A name. -/
  | identifier (name : String)
  /-- A run of operator characters, which need not be the spelling of an operator. -/
  | operator (symbol : String)
  /-- A quoted text, without its quotes. -/
  | string (text : String)
  /-- What stands between square brackets. -/
  | list (inner : List Char)
  /-- What stands between parentheses. -/
  | group (inner : List Char)
  deriving DecidableEq, Repr

/-- A token: its kind, the piece of text it covers, and the place where the piece starts,
counted in characters. -/
structure Token where
  kind : Token.Kind
  lexeme : List Char
  offset : Nat
  deriving DecidableEq, Repr

namespace Token.Kind

/-- The symbol of an operator token. -/
def symbol? : Kind → Option String
  | operator symbol => some symbol
  | _ => none

/-- Every token that is no operator is an operand. -/
def isOperand (kind : Kind) : Bool :=
  kind.symbol?.isNone

/-- A token as it is shown: its contents, with the delimiters that belong to its kind. -/
def text : Kind → List Char
  | number value => Shortest.text value
  | identifier name => name.toList
  | operator symbol => symbol.toList
  | string text => '"' :: text.toList ++ ['"']
  | list inner => '[' :: inner ++ [']']
  | group inner => '(' :: inner ++ [')']

/-- How much a token weighs when tokens are counted against the text they came from: raw
inner text weighs its length, and every token weighs one more. -/
def weight : Kind → Nat
  | list inner => inner.length + 1
  | group inner => inner.length + 1
  | _ => 1

theorem weight_pos (kind : Kind) : 0 < kind.weight := by
  cases kind <;> simp [weight]

end Token.Kind

namespace Token

/-- The symbol of an operator token. -/
def symbol? (token : Token) : Option String :=
  token.kind.symbol?

/-- The operator that a token spells, if it spells one. -/
def operator? (token : Token) : Option Operator :=
  token.symbol?.bind Operator.ofSymbol?

/-- Whether a token spells this operator. -/
def isOperator (op : Operator) (token : Token) : Bool :=
  token.symbol? == some op.symbol

/-- The weight of a token list. -/
def weight : List Token → Nat
  | [] => 0
  | token :: tokens => token.kind.weight + weight tokens

@[simp]
theorem weight_nil : weight [] = 0 := rfl

@[simp]
theorem weight_cons (token : Token) (tokens : List Token) :
    weight (token :: tokens) = token.kind.weight + weight tokens := rfl

@[simp]
theorem weight_append (front back : List Token) :
    weight (front ++ back) = weight front + weight back := by
  induction front with
  | nil => simp
  | cons token front ih => rw [List.cons_append, weight_cons, weight_cons, ih, Nat.add_assoc]

theorem weight_dropLast_le (tokens : List Token) : weight tokens.dropLast ≤ weight tokens := by
  cases tokens with
  | nil => simp
  | cons token tokens =>
    have split := List.dropLast_concat_getLast (List.cons_ne_nil token tokens)
    have h := congrArg weight split
    rw [weight_append] at h
    omega

end Token

end Clausal
