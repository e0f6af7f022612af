import Clausal.Proofs.Evaluation.Agreement
import Clausal.Proofs.Evaluation.Concatenation
import Mathlib.Data.List.Forall2

/-!
# The head of an application

A name in front of arguments is applied, and a name that stands alone is looked up. The two resolve
the name on different ways: the one calls the value of the name and otherwise applies a builtin or a
user function, the other yields the value of the name and otherwise makes a function value of a
name that is a function. They come to the same: a name is applied by calling what it stands for.

Main statements:
* `Scope.applyHead_of_lookup`, `Scope.exists_lookup_of_applyHead`: the two ways to resolve a name
  agree;
* `Expr.evalIn_application_eq_ok_iff`: an application succeeds exactly if the call does;
* `application_eq_call`: what this means for interpreters, with any number of user functions in
  progress, and for `map` on a list of one element.
-/

namespace Clausal

/-! ## Names -/

namespace Scope

variable {scope : Scope} {apply : Application} {name : String} {callable : Callable}
  {arguments : List Value} {value : Value}

/-- Applying a name that stands for a function calls this function. -/
theorem applyHead_of_lookup (h : scope.lookup name = .ok (.function callable))
    (arguments : List Value) :
    scope.applyHead apply name arguments = callable.call apply arguments := by
  unfold lookup at h
  unfold applyHead
  cases hvalue : scope.value? name with
  | some bound =>
    -- A value in sight is what the name stands for, so it is the function that is called.
    rw [hvalue] at h
    obtain rfl := Except.ok.inj h
    rfl
  | none =>
    -- Without a value, the name stands for the function of that name.
    simp only [hvalue] at h
    split at h
    · obtain rfl := Value.function.inj (Except.ok.inj h)
      rfl
    · contradiction

/-- Only a name that stands for a function is applied with success. -/
theorem exists_lookup_of_applyHead
    (undefined : ∀ name arguments, scope.isFunction name = false →
      apply name arguments = .error (.undefinedFunction name))
    (h : scope.applyHead apply name arguments = .ok value) :
    ∃ callable, scope.lookup name = .ok (.function callable) := by
  unfold applyHead at h
  unfold lookup
  cases hvalue : scope.value? name with
  | some bound =>
    simp only [hvalue] at h
    -- A value that is no function is reported when it is applied.
    cases bound with
    | function callable => exact ⟨callable, rfl⟩
    | _ => contradiction
  | none =>
    simp only [hvalue] at h
    cases known : scope.isFunction name with
    | true => exact ⟨.named name, rfl⟩
    | false =>
      rw [undefined name arguments known] at h
      contradiction

end Scope

/-! ## Applications -/

/-- What is related to a list of one element has one element, too. -/
theorem forall₂_singleton_left_iff {α β : Type} {R : α → β → Prop} {a : α} {bs : List β} :
    List.Forall₂ R [a] bs ↔ ∃ b, R a b ∧ bs = [b] := by
  -- The list ends where the list it is related to ends.
  simp only [List.forall₂_cons_left_iff, List.forall₂_nil_left_iff]
  grind

namespace Expr

variable {scope : Scope} {apply : Application} {name : String} {callable : Callable}
  {arguments : List Expr} {values : List Value} {value : Value}

/-- Expressions are evaluated together exactly if each of them is evaluated. -/
theorem evalAllIn_eq_ok_iff {exprs : List Expr} :
    evalAllIn scope apply exprs = .ok values ↔
      List.Forall₂ (fun expr value => expr.evalIn scope apply = .ok value) exprs values := by
  induction exprs generalizing values with
  | nil => simp [evalAllIn, eq_comm]
  | cons expr exprs ih =>
    rw [evalAllIn, List.forall₂_cons_left_iff]
    simp only [bind_eq_ok_iff, ih, pure, Except.pure, Except.ok.injEq]
    grind

theorem evalIn_application : (Expr.application name arguments).evalIn scope apply =
    evalAllIn scope apply arguments >>= scope.applyHead apply name :=
  rfl

/-- A list of one element is evaluated by evaluating this element. -/
theorem evalIn_list_singleton_eq_ok_iff {item : Expr} :
    (Expr.list [item]).evalIn scope apply = .ok value ↔
      ∃ element, item.evalIn scope apply = .ok element ∧ value = .list [element] := by
  rw [evalIn]
  simp only [bind_eq_ok_iff, evalAllIn_eq_ok_iff, forall₂_singleton_left_iff, pure, Except.pure,
    Except.ok.injEq]
  grind

/-- A name that stands for a function, applied to arguments that are evaluated, calls the function
on their values. -/
theorem evalIn_application_of_lookup
    (head : (Expr.variable name).evalIn scope apply = .ok (.function callable))
    (each : List.Forall₂ (fun argument value => argument.evalIn scope apply = .ok value)
      arguments values) :
    (Expr.application name arguments).evalIn scope apply = callable.call apply values := by
  rw [evalIn_application, bind_of_eq_ok (evalAllIn_eq_ok_iff.mpr each)]
  exact Scope.applyHead_of_lookup head values

/-- **An application succeeds exactly if the name stands for a function, the arguments are
evaluated, and the call succeeds.** -/
theorem evalIn_application_eq_ok_iff
    (undefined : ∀ name arguments, scope.isFunction name = false →
      apply name arguments = .error (.undefinedFunction name)) :
    (Expr.application name arguments).evalIn scope apply = .ok value ↔
      ∃ callable values, (Expr.variable name).evalIn scope apply = .ok (.function callable) ∧
        List.Forall₂ (fun argument value => argument.evalIn scope apply = .ok value)
          arguments values ∧
        callable.call apply values = .ok value := by
  constructor
  -- The arguments come first, so they have values before the head is looked at.
  · intro h
    obtain ⟨values, each, applied⟩ := bind_eq_ok_iff.mp (evalIn_application.symm.trans h)
    obtain ⟨callable, head⟩ := Scope.exists_lookup_of_applyHead undefined applied
    rw [Scope.applyHead_of_lookup head] at applied
    exact ⟨callable, values, head, evalAllIn_eq_ok_iff.mp each, applied⟩
  · rintro ⟨callable, values, head, each, called⟩
    rw [evalIn_application_of_lookup head each, called]

end Expr

/-! ## Mapping over one element -/

section Map

variable {registry : Registry} {user : Application} {scope : Scope} {name : String}
  {function item value : Value} {argument : Expr}

/-- On a list of one element, `map` calls the function on this element. -/
theorem map_singleton_eq_ok_iff :
    applyName registry user "map" [function, .list [item]] = .ok (.list [value]) ↔
      ∃ callable, function = .function callable ∧
        callable.call (applyName registry user) [item] = .ok value := by
  constructor
  · intro h
    cases function with
    | function callable =>
      -- The loop over one element makes one call and adds nothing to its result.
      rw [show applyName registry user "map" _ = _ from map_applyName, map_list_eq_ok] at h
      obtain ⟨result, others, called, -, same⟩ := HigherOrder.mapItems_cons_eq_ok_iff.mp h
      obtain ⟨rfl, -⟩ := List.cons.inj same
      exact ⟨callable, rfl, called⟩
    | _ =>
      -- Nothing but a function is mapped.
      rw [applyName_higherOrder (show HigherOrder.ofName? "map" = some .map by decide),
        HigherOrder.run_of_asCallable_eq_error _ rfl rfl rfl] at h
      contradiction
  · rintro ⟨callable, rfl, called⟩
    refine map_applyName.trans (map_list_eq_ok.mpr ?_)
    exact HigherOrder.mapItems_cons_eq_ok_iff.mpr ⟨value, [], called, rfl, rfl⟩

/-- Where `map` is not bound, mapping a name over one argument calls what the name stands for. -/
theorem Expr.evalIn_map_singleton_eq_ok_iff (unbound : scope.value? "map" = none) :
    (Expr.application "map" [.variable name, .list [argument]]).evalIn scope
        (applyName registry user) = .ok (.list [value]) ↔
      ∃ callable item, (Expr.variable name).evalIn scope (applyName registry user) =
          .ok (.function callable) ∧
        argument.evalIn scope (applyName registry user) = .ok item ∧
        callable.call (applyName registry user) [item] = .ok value := by
  -- With `map` unbound, the head is resolved to the builtin.
  have applied (values : List Value) :
      scope.applyHead (applyName registry user) "map" values =
        applyName registry user "map" values := by
    rw [Scope.applyHead, unbound]
  constructor
  · intro h
    obtain ⟨values, each, mapped⟩ := bind_eq_ok_iff.mp (evalIn_application.symm.trans h)
    -- Two arguments are evaluated, the name and the list.
    obtain _ | ⟨head, _ | ⟨listed, _ | _⟩⟩ := evalAllIn_eq_ok_iff.mp each
    obtain ⟨item, evaluated, rfl⟩ := evalIn_list_singleton_eq_ok_iff.mp listed
    rw [applied] at mapped
    obtain ⟨callable, rfl, called⟩ := map_singleton_eq_ok_iff.mp mapped
    exact ⟨callable, item, head, evaluated, called⟩
  · rintro ⟨callable, item, head, evaluated, called⟩
    have listed := evalIn_list_singleton_eq_ok_iff.mpr ⟨item, evaluated, rfl⟩
    rw [evalIn_application,
      bind_of_eq_ok (evalAllIn_eq_ok_iff.mpr (.cons head (.cons listed .nil))),
      applied]
    exact map_singleton_eq_ok_iff.mpr ⟨callable, rfl, called⟩

end Map

/-! ## Interpreters -/

namespace Interpreter

/-- How an interpreter evaluates an expression while `count` user functions are in progress. -/
def evalFrom (interp : Interpreter) (count : Nat) (frame : Bindings) (expr : Expr) : Result :=
  expr.evalIn (interp.scope frame) (interp.applyFrom count)

/-- How an interpreter calls a function value while `count` user functions are in progress. -/
def callFrom (interp : Interpreter) (count : Nat) (callable : Callable) (arguments : List Value) :
    Result :=
  callable.call (interp.applyFrom count) arguments

end Interpreter

/-- **A name is applied by calling what it stands for.**

Let any number of user functions be in progress, and let any names be bound by a clause. A name
applied to arguments yields a value exactly if the name by itself stands for a function, each
argument is evaluated, and calling the function on their values yields this value. If the name
stands for a function and the arguments are evaluated, the application and the call have the same
result, which may be an error. Where `map` is not bound, a name applied to one argument yields a
value exactly if `map` with this name yields the list of this value for the list of the argument. -/
theorem application_eq_call (interp : Interpreter) (count : Nat) (frame : Bindings) :
    -- A counter that stands at this count gives these results, and is left as it was.
    (∀ expr, Counted.Settles (fun fuel => interp.evalCounted fuel expr frame) count
      (interp.evalFrom count frame expr)) ∧
    (∀ callable values, Counted.Settles (fun fuel => interp.callCounted fuel callable values) count
      (interp.callFrom count callable values)) ∧
    (∀ expr, interp.evalFrom 0 frame expr = interp.eval expr frame) ∧
    (∀ callable values, interp.callFrom 0 callable values = interp.call callable values) ∧
    (∀ name arguments value, interp.evalFrom count frame (.application name arguments) = .ok value ↔
      ∃ callable values, interp.evalFrom count frame (.variable name) = .ok (.function callable) ∧
        List.Forall₂ (fun argument value => interp.evalFrom count frame argument = .ok value)
          arguments values ∧
        interp.callFrom count callable values = .ok value) ∧
    (∀ name arguments callable values,
      interp.evalFrom count frame (.variable name) = .ok (.function callable) →
      List.Forall₂ (fun argument value => interp.evalFrom count frame argument = .ok value)
        arguments values →
      interp.evalFrom count frame (.application name arguments) =
        interp.callFrom count callable values) ∧
    (frame.get? "map" = none → interp.globals.get? "map" = none → ∀ name argument value,
      interp.evalFrom count frame (.application name [argument]) = .ok value ↔
        interp.evalFrom count frame (.application "map" [.variable name, .list [argument]]) =
          .ok (.list [value])) := by
  -- The counter leaves as many levels as the limit exceeds the count by.
  have settled (name : String) (arguments : List Value) :=
    Counted.settles_apply (rfl : interp.maxDepth - count = interp.maxDepth - count) name arguments
  -- A name that is no function in the scope is none in the interpreter.
  have undefined (name : String) (arguments : List Value)
      (h : (interp.scope frame).isFunction name = false) :
      interp.applyFrom count name arguments = .error (.undefinedFunction name) :=
    interp.applyName_undefined h _ arguments
  refine ⟨fun expr => Counted.settles_eval settled expr,
    fun callable values => Counted.settles_call (fun name => settled name values) callable,
    fun _ => rfl, fun _ _ => rfl, fun name arguments value => ?_, ?_, ?_⟩
  · exact Expr.evalIn_application_eq_ok_iff undefined
  · intro name arguments callable values head each
    exact Expr.evalIn_application_of_lookup head each
  · intro noParameter noGlobal name argument value
    have unbound : (interp.scope frame).value? "map" = none := by
      simp only [Interpreter.scope, noParameter, noGlobal, Option.or_none]
    refine Iff.trans ?_ (Expr.evalIn_map_singleton_eq_ok_iff unbound).symm
    -- Both sides say by now what they need of the name and of the argument, once in lists and once
    -- alone.
    refine (Expr.evalIn_application_eq_ok_iff undefined).trans ?_
    constructor
    · rintro ⟨callable, values, head, each, called⟩
      obtain ⟨item, evaluated, rfl⟩ := forall₂_singleton_left_iff.mp each
      exact ⟨callable, item, head, evaluated, called⟩
    · rintro ⟨callable, item, head, evaluated, called⟩
      exact ⟨callable, [item], head, .cons evaluated .nil, called⟩

/-- A parameter that is bound to a user function. -/
def filledFrame : Bindings :=
  Bindings.ofParts [("p", .function (.named "filled"))]

/-- With another user function in progress, the parameter is applied by calling the function, and
`map` does the same with each element. -/
theorem application_eq_call_parameter :
    filledInterpreter.evalFrom 1 filledFrame (.variable "p") =
      .ok (.function (.named "filled")) ∧
    filledInterpreter.evalFrom 1 filledFrame (.application "p" [.list [.string "a"]]) =
      .ok (.bool true) ∧
    filledInterpreter.evalFrom 1 filledFrame
      (.application "map" [.variable "p", .list [.list [.string "a"]]]) =
      .ok (.list [.bool true]) := by
  obtain ⟨-, -, -, -, -, same, mapped⟩ := application_eq_call filledInterpreter 1 filledFrame
  have head : filledInterpreter.evalFrom 1 filledFrame (.variable "p") =
      .ok (.function (.named "filled")) := rfl
  have called : filledInterpreter.callFrom 1 (.named "filled") [.list [.string "a"]] =
      .ok (.bool true) := by
    -- The name is neither a builtin nor a tool, so its clauses are tried with 99 levels left.
    have user : filledInterpreter.callFrom 1 (.named "filled") [.list [.string "a"]] =
        filledInterpreter.applyUser 99 "filled" [.list [.string "a"]] :=
      applyName_user (by decide) rfl
    rw [user]
    rfl
  have applied := (same "p" [.list [.string "a"]] _ [.list [.string "a"]] head
    (.cons rfl .nil)).trans called
  exact ⟨head, applied, (mapped rfl rfl "p" (.list [.string "a"]) (.bool true)).mp applied⟩

end Clausal
