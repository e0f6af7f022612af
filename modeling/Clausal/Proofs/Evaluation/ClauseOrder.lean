import Clausal.Proofs.Evaluation.Agreement

/-!
# The order of clauses

The clauses of a function are tried from the first on, and the first that matches decides. What
stands behind it is not looked at. Clauses that are added at the end of a function are therefore
tried only on arguments that were refused before, and a refusal is the end of an evaluation,
wherever in it the function is applied.

Main statement:
* `answer_of_added_clauses`: what was answered without a refusal of the function is answered alike
  when the function has more clauses at its end.
-/

namespace Clausal

/-- A later clause is selected only if none of the earlier ones is. -/
theorem firstMatch?_append (clauses added : List Clause) (arguments : List Value) :
    firstMatch? (clauses ++ added) arguments =
      (firstMatch? clauses arguments).or (firstMatch? added arguments) :=
  List.findSome?_append

/-- An error that reports that the function of this name refuses its arguments. -/
def Error.ReportsRefusal (name : String) (error : Error) : Prop :=
  ∃ shown, error = .noClauseMatched name shown

namespace Interpreter

variable {interp : Interpreter} {name : String} {clauses : List Clause}

/-- Clauses at the end of a function are noticed only where the function refuses its arguments
without them. -/
theorem alikeUnless_added_clauses (stored : interp.definitions.get? name = some clauses)
    (added : List Clause) :
    interp.AlikeUnless (Error.ReportsRefusal name)
      (interp.defineFunction name (clauses ++ added)) := by
  refine alikeUnless_of_selects fun _ _ => ?_
  rw [stored]
  intro arguments
  rw [firstMatch?_append]
  -- What the old clauses select is selected still. Where they select nothing, the refusal stands on
  -- the first side.
  cases selected : firstMatch? clauses arguments with
  | none => exact .inr ⟨rfl, _, rfl⟩
  | some _ => exact .inl rfl

end Interpreter

/-- **Clauses that are added at the end of a function change no answer that was no refusal.**

Take a function and more clauses for its end. A request whose answer does not report that this
function refuses its arguments is answered as before, with the same value or the same error. The
request may apply the function directly, through other functions, as a function value or within
itself, at any depth that is left. -/
theorem answer_of_added_clauses {interp : Interpreter} {name : String} {clauses : List Clause}
    (stored : interp.definitions.get? name = some clauses) (added : List Clause)
    {request : Request}
    (accepted : ∀ shown, interp.answer request ≠ .error (.noClauseMatched name shown)) :
    (interp.defineFunction name (clauses ++ added)).answer request = interp.answer request := by
  refine (Interpreter.alikeUnless_added_clauses stored added).answer_eq ?_
  rintro error ⟨shown, rfl⟩
  exact accepted shown

/-- The clauses `last [x] = x` and `last (h:t) = last t`. They refuse the empty list. -/
def lastClauses : List Clause :=
  [⟨[.elements ["x"]], .variable "x"⟩,
    ⟨[.cons "h" "t"], .application "last" [.variable "t"]⟩]

/-- An interpreter that knows the function `last`. -/
def lastInterpreter : Interpreter :=
  (Interpreter.empty 100).defineFunction "last" lastClauses

/-- The clause `last [] = "none"` changes nothing for lists with elements, although `last` is called
by a builtin and by itself. -/
theorem answer_of_added_clauses_last :
    lastInterpreter.definitions.get? "last" = some lastClauses ∧
    (∀ shown, lastInterpreter.answer (.evaluate "map last [[True], [False, 3]]") ≠
      .error (.noClauseMatched "last" shown)) ∧
    (lastInterpreter.defineFunction "last"
        (lastClauses ++ [⟨[.emptyList], .string "none"⟩])).answer
      (.evaluate "map last [[True], [False, 3]]") =
        lastInterpreter.answer (.evaluate "map last [[True], [False, 3]]") := by
  have stored : lastInterpreter.definitions.get? "last" = some lastClauses := rfl
  have accepted : ∀ shown, lastInterpreter.answer (.evaluate "map last [[True], [False, 3]]") ≠
      .error (.noClauseMatched "last" shown) := by
    -- The list `[False, 3]` has two elements, so `last` is called by itself there.
    have answered : (lastInterpreter.answer
        (.evaluate "map last [[True], [False, 3]]")).toBool = true := by decide +kernel
    -- A successful answer is no refusal, of whatever arguments.
    intro shown refused
    rw [refused] at answered
    contradiction
  exact ⟨stored, accepted, answer_of_added_clauses stored _ accepted⟩

end Clausal
