import Clausal.Proofs.Evaluation.Agreement

/-!
# Names of builtins

A user function can be stored under the name of a builtin, but it is never applied: wherever the
name stands for a function, it stands for the builtin. Which tools there are makes no difference.

Main statements:
* `Interpreter.builtinNames`: the names that belong to builtins, the tools of the interpreter among
  them;
* `answer_of_overridden_builtin`: clauses under such a name change no answer, and no name becomes a
  function or ceases to be one.
-/

namespace Clausal

/-! ## Names -/

/-- A name is that of a tool exactly if a tool is found by it. -/
theorem Registry.mem_names_iff {registry : Registry} {name : String} :
    name ∈ registry.names ↔ ¬ registry.get? name = none := by
  -- Nothing is found exactly if no entry has the name.
  rw [Registry.names, Names.get?, List.lookup_eq_none_iff, List.mem_map]
  simp only [bne_iff_ne, ne_eq]
  grind

namespace Interpreter

/-- The names of the builtins, of those that call back and of the tools. -/
def builtinNames (interp : Interpreter) : List String :=
  HigherOrder.all.map HigherOrder.name ++ interp.registry.names

variable {interp : Interpreter} {name : String}

/-- A name belongs to a builtin exactly if it is found as that of one. -/
theorem mem_builtinNames_iff : name ∈ interp.builtinNames ↔
    ¬ (HigherOrder.ofName? name = none ∧ interp.registry.get? name = none) := by
  rw [builtinNames, List.mem_append, List.mem_map, HigherOrder.ofName?, List.find?_eq_none,
    Registry.mem_names_iff]
  simp only [beq_iff_eq]
  grind

/-- Clauses under the name of a builtin are not noticed. -/
theorem alikeUnless_overridden_builtin (builtin : name ∈ interp.builtinNames)
    (clauses : List Clause) :
    interp.AlikeUnless (fun _ => False) (interp.defineFunction name clauses) :=
  -- What is stored under such a name is never looked up.
  alikeUnless_of_selects fun hb ht => absurd ⟨hb, ht⟩ (mem_builtinNames_iff.mp builtin)

end Interpreter

/-- **Builtins cannot be overridden.**

Store any clauses under the name of a builtin, whatever tools the interpreter has. Every request is
answered as before, also where the clauses apply the name themselves or hand it on as a function
value, and where bodies of other functions do. And the same names are functions as before. -/
theorem answer_of_overridden_builtin {interp : Interpreter} {name : String}
    (builtin : name ∈ interp.builtinNames) (clauses : List Clause) :
    (∀ request, (interp.defineFunction name clauses).answer request = interp.answer request) ∧
    ∀ other, (interp.defineFunction name clauses).isFunction other = interp.isFunction other := by
  have alike := interp.alikeUnless_overridden_builtin builtin clauses
  refine ⟨fun request => alike.answer_eq fun _ stops => stops.elim, fun other => ?_⟩
  -- The exception asks for an error that may differ, and here there is none.
  exact (alike.isFunction_eq other).resolve_right fun absent => absent.2

/-- An interpreter that knows the function `heads xs = map head xs`. -/
def headsInterpreter : Interpreter :=
  (Interpreter.empty 100).defineFunction "heads"
    [⟨[.variable "xs"], .application "map" [.variable "head", .variable "xs"]⟩]

/-- The clause `map f xs = map map xs`, which applies the name under which it is stored and hands
it on. -/
def mapClauses : List Clause :=
  [⟨[.variable "f", .variable "xs"], .application "map" [.variable "map", .variable "xs"]⟩]

/-- The body of `heads` still applies the builtin. -/
theorem answer_of_overridden_builtin_map :
    "map" ∈ headsInterpreter.builtinNames ∧
    (headsInterpreter.defineFunction "map" mapClauses).answer
      (.evaluate "heads [[True, False], [False]]") =
        headsInterpreter.answer (.evaluate "heads [[True, False], [False]]") ∧
    (headsInterpreter.defineFunction "map" mapClauses).isFunction "map" =
      headsInterpreter.isFunction "map" := by
  have builtin : "map" ∈ headsInterpreter.builtinNames := by decide
  exact ⟨builtin, (answer_of_overridden_builtin builtin mapClauses).1 _,
    (answer_of_overridden_builtin builtin mapClauses).2 "map"⟩

end Clausal
