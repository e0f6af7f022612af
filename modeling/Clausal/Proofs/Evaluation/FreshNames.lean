import Clausal.Proofs.Evaluation.Agreement

/-!
# Fresh names

A name that stands for nothing can be given a meaning without harm: whatever was answered without
a report that the name is undefined is answered alike when the name is a variable or a function.
Clauses may mention the name, as a parameter or in a body that is not evaluated.

Main statement:
* `answer_of_fresh_name`: defining a fresh name is a conservative extension.
-/

namespace Clausal

/-- An error that reports a name as one that stands for nothing. -/
def Error.ReportsAbsent (name : String) (error : Error) : Prop :=
  error = .undefinedVariable name ∨ error = .undefinedFunction name

namespace Interpreter

variable {interp : Interpreter} {name : String}

theorem defineVariable_of_unbound (unbound : interp.globals.get? name = none) (value : Value) :
    interp.defineVariable name value =
      .ok { interp with globals := interp.globals.insert name value } := by
  unfold defineVariable Names.contains
  rw [unbound]
  rfl

/-- A variable with a fresh name is noticed only where the name is reported without it. -/
theorem alikeUnless_insert_globals (fresh : interp.isFunction name = false)
    (unbound : interp.globals.get? name = none) (value : Value) :
    interp.AlikeUnless (Error.ReportsAbsent name)
      { interp with globals := interp.globals.insert name value } where
  maxDepth := rfl
  registry := rfl
  globals other := by
    -- Every name but the fresh one has the value that it had.
    rw [Names.get?_insert]
    split
    · rename_i same
      subst same
      exact .inr ⟨unbound, fresh, .inr rfl, .inl rfl⟩
    · exact .inl rfl
  functions other _ _ := .refl _ other _

/-- A function with a fresh name is noticed only where the name is reported without it. The name
may be that of a variable: as such it is found first, before and after. -/
theorem alikeUnless_defineFunction (fresh : interp.isFunction name = false)
    (clauses : List Clause) :
    interp.AlikeUnless (Error.ReportsAbsent name) (interp.defineFunction name clauses) := by
  refine alikeUnless_of_selects fun _ _ => ?_
  -- There were no clauses under this name, and without them it is reported in one of the two ways.
  rw [(isFunction_eq_false_iff.mp fresh).2.2]
  exact ⟨.inr rfl, .inl rfl⟩

end Interpreter

/-- **Defining a fresh name is a conservative extension.**

Take a name that is no function, and a request whose answer does not report that the name is
undefined. If the name is no variable either, it can be bound to any value, and the request is
answered as before. It can also be given any clauses as a new function, whether it is a variable
or not, and the request is answered as before. -/
theorem answer_of_fresh_name {interp : Interpreter} {name : String}
    (fresh : interp.isFunction name = false) {request : Request}
    (hvariable : interp.answer request ≠ .error (.undefinedVariable name))
    (hfunction : interp.answer request ≠ .error (.undefinedFunction name)) :
    (interp.globals.get? name = none → ∀ value, ∃ bound,
      interp.defineVariable name value = .ok bound ∧
        bound.answer request = interp.answer request) ∧
    ∀ clauses, (interp.defineFunction name clauses).answer request = interp.answer request := by
  -- The two reports of an absent name are excluded by the two hypotheses.
  have hstop : ∀ error, Error.ReportsAbsent name error →
      interp.answer request ≠ .error error := by
    rintro error (rfl | rfl)
    · exact hvariable
    · exact hfunction
  refine ⟨fun unbound value => ?_, fun clauses => ?_⟩
  · exact ⟨_, Interpreter.defineVariable_of_unbound unbound value,
      (Interpreter.alikeUnless_insert_globals fresh unbound value).answer_eq hstop⟩
  · exact (Interpreter.alikeUnless_defineFunction fresh clauses).answer_eq hstop

/-- The clauses `pick True later = later` and `pick _ _ = later`. The name `later` is a parameter
of the first and stands for nothing in the second. -/
def pickClauses : List Clause :=
  [⟨[.literal (.bool true), .variable "later"], .variable "later"⟩,
    ⟨[.wildcard, .wildcard], .variable "later"⟩]

/-- An interpreter that knows the function `pick`. -/
def pickInterpreter : Interpreter :=
  (Interpreter.empty 100).defineFunction "pick" pickClauses

/-- A call of `pick` that selects its first clause. -/
def pickRequest : Request :=
  .apply "pick" [.bool true, .string "now"]

theorem answer_pickRequest : pickInterpreter.answer pickRequest = .ok (.string "now") := by
  have hb : HigherOrder.ofName? "pick" = none := by decide
  have ht : pickInterpreter.registry.get? "pick" = none := rfl
  -- The first clause matches and its body is a parameter, which computation shows.
  exact applyName_user hb ht

/-- A name that is a parameter of one clause, and that another clause lacks, can be defined. -/
theorem answer_of_fresh_name_pick :
    pickInterpreter.isFunction "later" = false ∧
    pickInterpreter.answer pickRequest ≠ .error (.undefinedVariable "later") ∧
    pickInterpreter.answer pickRequest ≠ .error (.undefinedFunction "later") ∧
    pickInterpreter.globals.get? "later" = none ∧
    (pickInterpreter.globals.get? "later" = none → ∀ value, ∃ bound,
      pickInterpreter.defineVariable "later" value = .ok bound ∧
        bound.answer pickRequest = pickInterpreter.answer pickRequest) ∧
    ∀ clauses, (pickInterpreter.defineFunction "later" clauses).answer pickRequest =
      pickInterpreter.answer pickRequest := by
  have fresh : pickInterpreter.isFunction "later" = false := by decide
  have hvariable : pickInterpreter.answer pickRequest ≠ .error (.undefinedVariable "later") := by
    simp [answer_pickRequest]
  have hfunction : pickInterpreter.answer pickRequest ≠ .error (.undefinedFunction "later") := by
    simp [answer_pickRequest]
  exact ⟨fresh, hvariable, hfunction, rfl, answer_of_fresh_name fresh hvariable hfunction⟩

end Clausal
