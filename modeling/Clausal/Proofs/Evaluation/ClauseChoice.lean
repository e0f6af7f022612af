import Clausal.Proofs.Evaluation.ClauseOrder
import Clausal.Proofs.Matching.Occurrences
import Mathlib.Logic.Relation

/-!
# Clauses that make no difference

Which clause is selected depends on less than the list of clauses. A clause is never selected when
one of the same arity stands before it whose parameters are variables and wildcards, since that one
takes all arguments of that number. And clauses of different arities never compete, so that of two
neighbours it does not matter which comes first.

Main statements:
* `Clause.Tidies`: the changes to a list of clauses that are meant;
* `Clause.Tidies.firstMatch?_eq`: they leave the selected clause as it is, for any arguments;
* `answer_of_tidied_clauses`: after any number of them every request is answered as before.
-/

namespace Clausal

/-! ## Clauses that take everything -/

/-- Whether a pattern is a variable or the wildcard. -/
def Pattern.isGeneral : Pattern → Bool
  | .variable _ | .wildcard => true
  | .emptyList | .cons _ _ | .elements _ | .literal _ => false

theorem Pattern.accepts_of_isGeneral {pattern : Pattern} (h : pattern.isGeneral = true)
    (value : Value) : pattern.Accepts value := by
  cases pattern with
  | «variable» name => exact .variable name value
  | wildcard => exact .wildcard value
  | emptyList | cons | elements | literal => contradiction

namespace Clause

variable {clause : Clause} {arguments : List Value}

/-- Whether the parameters of a clause are variables and wildcards only. -/
def isGeneral (clause : Clause) : Bool :=
  clause.parameters.all Pattern.isGeneral

theorem match?_eq_none_of_arity_ne (h : clause.arity ≠ arguments.length) :
    clause.match? arguments = none := by
  -- Clauses with another number of parameters accept nothing.
  rw [← Option.not_isSome_iff_eq_none, isSome_match?_iff]
  exact fun accepted => h accepted.1

/-- A clause whose parameters are variables and wildcards takes all arguments of its number. -/
theorem isSome_match?_of_isGeneral (general : clause.isGeneral = true)
    (h : clause.arity = arguments.length) : (clause.match? arguments).isSome := by
  refine isSome_match?_iff.mpr ⟨h, fun part mem => ?_⟩
  exact Pattern.accepts_of_isGeneral
    (List.all_eq_true.mp general part.1 (List.of_mem_zip mem).1) part.2

end Clause

/-! ## The selected clause -/

section Selection

variable {clause : Clause} {clauses : List Clause} {arguments : List Value}

/-- The first clause is selected if it matches, and otherwise the others are tried. -/
theorem firstMatch?_cons : firstMatch? (clause :: clauses) arguments =
    ((clause.match? arguments).map fun bindings => (clause.body, bindings)).or
      (firstMatch? clauses arguments) := by
  rw [firstMatch?, List.findSome?_cons]
  cases clause.match? arguments <;> rfl

theorem firstMatch?_cons_of_arity_ne (h : clause.arity ≠ arguments.length) :
    firstMatch? (clause :: clauses) arguments = firstMatch? clauses arguments := by
  rw [firstMatch?_cons, Clause.match?_eq_none_of_arity_ne h]
  rfl

theorem isSome_firstMatch?_of_mem (mem : clause ∈ clauses)
    (h : (clause.match? arguments).isSome) : (firstMatch? clauses arguments).isSome := by
  rw [firstMatch?, List.findSome?_isSome_iff]
  exact ⟨clause, mem, by rwa [Option.isSome_map]⟩

end Selection

/-- `Clause.Tidies clauses tidied`: one clause fewer, or two neighbours the other way round, where
it makes no difference. -/
inductive Clause.Tidies : List Clause → List Clause → Prop where
  /-- A clause is removed that stands behind one of the same arity whose parameters are variables
  and wildcards. -/
  | remove (before : List Clause) (clause : Clause) (after : List Clause) {general : Clause} :
      general ∈ before → general.isGeneral = true → general.arity = clause.arity →
        Tidies (before ++ clause :: after) (before ++ after)
  /-- Two neighbours of different arities change places. -/
  | swap (before : List Clause) {first second : Clause} (after : List Clause) :
      first.arity ≠ second.arity →
        Tidies (before ++ first :: second :: after) (before ++ second :: first :: after)

/-- **Tidying leaves the selected clause as it is**, for any arguments. -/
theorem Clause.Tidies.firstMatch?_eq {clauses tidied : List Clause} (h : Tidies clauses tidied)
    (arguments : List Value) : firstMatch? tidied arguments = firstMatch? clauses arguments := by
  -- The clauses before the change are tried first, alike on both sides.
  cases h with
  | @remove before clause after general mem hgeneral sameArity =>
    rw [firstMatch?_append, firstMatch?_append]
    by_cases h : clause.arity = arguments.length
    · -- The general clause matches, or one before it, and nothing behind it is tried.
      have taken := general.isSome_match?_of_isGeneral hgeneral (sameArity.trans h)
      obtain ⟨selected, hselected⟩ :=
        Option.isSome_iff_exists.mp (isSome_firstMatch?_of_mem mem taken)
      rw [hselected, Option.some_or, Option.some_or]
    · rw [firstMatch?_cons_of_arity_ne h]
  | @swap before first second after apart =>
    rw [firstMatch?_append, firstMatch?_append]
    simp only [firstMatch?_cons]
    -- One of the two takes another number of arguments, and is passed over on both sides.
    by_cases h : first.arity = arguments.length
    · have hsecond : second.arity ≠ arguments.length := fun h' => apart (h.trans h'.symm)
      rw [Clause.match?_eq_none_of_arity_ne hsecond, Option.map_none, Option.none_or,
        Option.none_or]
    · rw [Clause.match?_eq_none_of_arity_ne h, Option.map_none, Option.none_or, Option.none_or]

/-- Tidying again and again leaves the selected clause as it is. -/
theorem firstMatch?_eq_of_tidies {clauses tidied : List Clause}
    (h : Relation.ReflTransGen Clause.Tidies clauses tidied) (arguments : List Value) :
    firstMatch? tidied arguments = firstMatch? clauses arguments := by
  induction h with
  | refl => rfl
  -- Each step compares neighbouring lists, and the equalities are chained from the left.
  | tail _ step ih => exact (step.firstMatch?_eq arguments).trans ih

/-! ## Answers -/

/-- Other clauses under which the same clause is selected for any arguments are not noticed. -/
theorem Interpreter.alikeUnless_of_firstMatch?_eq {interp : Interpreter} {name : String}
    {clauses others : List Clause} (stored : interp.definitions.get? name = some clauses)
    (same : ∀ arguments, firstMatch? others arguments = firstMatch? clauses arguments) :
    interp.AlikeUnless (fun _ => False) (interp.defineFunction name others) := by
  refine alikeUnless_of_selects fun _ _ => ?_
  rw [stored]
  exact fun arguments => .inl (same arguments)

/-- **Clauses that make no difference can be tidied up.**

Take a function, and remove clauses that stand behind one of the same arity whose parameters are
variables and wildcards, or change the order of neighbours of different arities, as often as
wanted. Every request is answered as before, with the same value or the same error, whether it
applies the function directly, through other functions, as a function value or within itself. -/
theorem answer_of_tidied_clauses {interp : Interpreter} {name : String}
    {clauses tidied : List Clause} (stored : interp.definitions.get? name = some clauses)
    (tidying : Relation.ReflTransGen Clause.Tidies clauses tidied) (request : Request) :
    (interp.defineFunction name tidied).answer request = interp.answer request :=
  (Interpreter.alikeUnless_of_firstMatch?_eq stored (firstMatch?_eq_of_tidies tidying)).answer_eq
    fun _ stops => stops.elim

/-- The clauses `deep [] = "flat"`, `deep x = "other"`, `deep x (h:t) = deep (deep x) t` and
`deep (h:t) = "never"`. The last one is never selected. -/
def deepClauses : List Clause :=
  [⟨[.emptyList], .string "flat"⟩,
    ⟨[.variable "x"], .string "other"⟩,
    ⟨[.variable "x", .cons "h" "t"],
      .application "deep" [.application "deep" [.variable "x"], .variable "t"]⟩,
    ⟨[.cons "h" "t"], .string "never"⟩]

/-- The clauses of `deep` without the last one, and with the clause for two arguments before the
second clause for one. -/
def deepTidied : List Clause :=
  [⟨[.emptyList], .string "flat"⟩,
    ⟨[.variable "x", .cons "h" "t"],
      .application "deep" [.application "deep" [.variable "x"], .variable "t"]⟩,
    ⟨[.variable "x"], .string "other"⟩]

/-- An interpreter that knows the function `deep`. -/
def deepInterpreter : Interpreter :=
  (Interpreter.empty 100).defineFunction "deep" deepClauses

/-- A function that calls itself is tidied up, and a call that it refuses in the end is refused
with the same arguments. -/
theorem answer_of_tidied_clauses_deep :
    deepInterpreter.definitions.get? "deep" = some deepClauses ∧
    Relation.ReflTransGen Clause.Tidies deepClauses deepTidied ∧
    (deepInterpreter.defineFunction "deep" deepTidied).answer
      (.evaluate "deep [] [True, False]") =
        deepInterpreter.answer (.evaluate "deep [] [True, False]") := by
  have stored : deepInterpreter.definitions.get? "deep" = some deepClauses := rfl
  -- The second clause is general, and the last one, of the same arity, stands behind it.
  have general : deepClauses[1] ∈ deepClauses.take 3 := List.mem_cons_of_mem _ List.mem_cons_self
  have removed : Clause.Tidies deepClauses (deepClauses.take 3) :=
    .remove (deepClauses.take 3) deepClauses[3] [] general rfl rfl
  have swapped : Clause.Tidies (deepClauses.take 3) deepTidied :=
    .swap [deepClauses[0]] [] (show deepClauses[1].arity ≠ deepClauses[2].arity by decide)
  have tidying : Relation.ReflTransGen Clause.Tidies deepClauses deepTidied :=
    .tail (.single removed) swapped
  exact ⟨stored, tidying, answer_of_tidied_clauses stored tidying _⟩

end Clausal
