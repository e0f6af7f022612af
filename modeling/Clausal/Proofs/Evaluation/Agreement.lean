import Clausal.Proofs.Evaluation.Layers

/-!
# Evaluation up to a difference

Two interpreters that differ in what some names stand for evaluate alike until one of these names
is needed. An error is never caught: it is the result of everything around it. If the first
interpreter reports an error wherever it comes to the difference, then the answers of the two are
the same, or the first answer is one of these errors.

Main statements:
* `sameUnless_evalIn`, `sameUnless_applyName`: the layers of evaluation pass on that results are
  the same;
* `AlikeUnless.sameUnless_answer`: interpreters that are alike, except where the first reports an
  error, give the same answers, except where the first reports that error;
* `Alike.answer_eq`: interpreters in which every name stands for the same answer alike.
-/

namespace Clausal

/-! ## Results -/

/-- Two results are the same, or the first one stops with one of the given errors. -/
def SameUnless {α : Type} (stop : Error → Prop) (first second : Except Error α) : Prop :=
  second = first ∨ ∃ error, stop error ∧ first = .error error

namespace SameUnless

variable {α β : Type} {stop : Error → Prop}

theorem refl (result : Except Error α) : SameUnless stop result result :=
  .inl rfl

theorem of_stop {error : Error} (h : stop error) (second : Except Error α) :
    SameUnless stop (.error error) second :=
  .inr ⟨error, h, rfl⟩

/-- A sequence that stops in its first step has stopped. -/
theorem bind {first second : Except Error α} {next next' : α → Except Error β}
    (h : SameUnless stop first second)
    (hnext : ∀ value, SameUnless stop (next value) (next' value)) :
    SameUnless stop (first >>= next) (second >>= next') := by
  -- Either the first steps agree, and the next ones decide, or the first sequence has stopped.
  rcases h with rfl | ⟨error, herror, rfl⟩
  · cases second with
    | error error => exact refl _
    | ok value => exact hnext value
  · exact of_stop herror _

/-- Where the first result is none of the errors, the two are the same. -/
theorem eq_of_not_stop {first second : Except Error α} (h : SameUnless stop first second)
    (hstop : ∀ error, stop error → first ≠ .error error) : second = first := by
  refine h.resolve_right ?_
  rintro ⟨error, herror, hfirst⟩
  exact hstop error herror hfirst

end SameUnless

/-! ## Builtins and function values -/

section Callbacks

variable {stop : Error → Prop}

open HigherOrder

theorem sameUnless_mapItems {f g : Value → Result} (h : ∀ item, SameUnless stop (f item) (g item)) :
    (items : List Value) → SameUnless stop (mapItems f items) (mapItems g items)
  | [] => .refl _
  | item :: items =>
    (h item).bind fun _ => (sameUnless_mapItems h items).bind fun _ => .refl _

theorem sameUnless_filterItems {f g : Value → Result}
    (h : ∀ item, SameUnless stop (f item) (g item)) :
    (items : List Value) → SameUnless stop (filterItems f items) (filterItems g items)
  | [] => .refl _
  | item :: items =>
    (h item).bind fun _ => (sameUnless_filterItems h items).bind fun _ => .refl _

theorem sameUnless_foldItems {f g : Value → Value → Result}
    (h : ∀ acc item, SameUnless stop (f acc item) (g acc item)) :
    (items : List Value) → ∀ start,
      SameUnless stop (foldItems f start items) (foldItems g start items)
  | [], _ => .refl _
  | item :: items, start => (h start item).bind fun next => sameUnless_foldItems h items next

/-- A builtin runs alike if its callbacks do, and these have fewer arguments than the builtin. -/
theorem sameUnless_run {call call' : Callable → List Value → Result} {arguments : List Value}
    (hcall : ∀ callable fewer, fewer.length < arguments.length →
      SameUnless stop (call callable fewer) (call' callable fewer)) (builtin : HigherOrder) :
    SameUnless stop (builtin.run arguments fun callable fewer _ => call callable fewer)
      (builtin.run arguments fun callable fewer _ => call' callable fewer) := by
  by_cases harity : arguments.length = builtin.arity
  -- The arguments are the same values on both sides, so only the callbacks can differ.
  · obtain ⟨rfl, function, list, rfl⟩ | ⟨rfl, function, list, rfl⟩ |
      ⟨rfl, function, start, list, rfl⟩ := exists_arguments harity
    · refine (SameUnless.refl function.asCallable).bind fun callable => ?_
      refine (SameUnless.refl list.asList).bind fun items => ?_
      exact (sameUnless_mapItems (fun item => hcall callable [item] (by simp)) items).bind
        fun _ => .refl _
    · refine (SameUnless.refl function.asCallable).bind fun callable => ?_
      refine (SameUnless.refl list.asList).bind fun items => ?_
      exact (sameUnless_filterItems (fun item => hcall callable [item] (by simp)) items).bind
        fun _ => .refl _
    · refine (SameUnless.refl function.asCallable).bind fun callable => ?_
      refine (SameUnless.refl list.asList).bind fun items => ?_
      exact sameUnless_foldItems (fun acc item => hcall callable [acc, item] (by simp)) items start
  · -- Given another number of arguments, a builtin does not call back.
    rw [run_of_length_ne _ harity, run_of_length_ne _ harity]
    exact .refl _

/-- Only a function value that is a name has the name applied. -/
theorem sameUnless_call {apply apply' : Application} {arguments : List Value}
    (h : ∀ name, SameUnless stop (apply name arguments) (apply' name arguments))
    (callable : Callable) :
    SameUnless stop (callable.call apply arguments) (callable.call apply' arguments) := by
  cases callable with
  | named name => exact h name
  | operator | left | right =>
    -- An operator looks at its arguments and at how many there are.
    rcases arguments with _ | ⟨_, _ | ⟨_, _ | _⟩⟩ <;> exact .refl _

end Callbacks

/-! ## Expressions and names -/

section Expressions

variable {stop : Error → Prop} {scope other : Scope} {apply apply' : Application}

mutual

/-- An expression evaluates alike, by recursion on the expression, if names do: those that stand
alone and those that are applied. -/
theorem sameUnless_evalIn
    (hlookup : ∀ name, SameUnless stop (scope.lookup name) (other.lookup name))
    (hhead : ∀ name arguments, SameUnless stop (scope.applyHead apply name arguments)
      (other.applyHead apply' name arguments)) :
    (expr : Expr) → SameUnless stop (expr.evalIn scope apply) (expr.evalIn other apply')
  | .number _ | .string _ | .bool _ | .bareSection _ => .refl _
  | .list items => (sameUnless_evalAllIn hlookup hhead items).bind fun _ => .refl _
  | .variable name => hlookup name
  | .binary _ left right =>
    (sameUnless_evalIn hlookup hhead left).bind fun _ =>
      (sameUnless_evalIn hlookup hhead right).bind fun _ => .refl _
  | .application name arguments =>
    (sameUnless_evalAllIn hlookup hhead arguments).bind fun values => hhead name values
  | .leftSection operand _ | .rightSection _ operand =>
    (sameUnless_evalIn hlookup hhead operand).bind fun _ => .refl _

theorem sameUnless_evalAllIn
    (hlookup : ∀ name, SameUnless stop (scope.lookup name) (other.lookup name))
    (hhead : ∀ name arguments, SameUnless stop (scope.applyHead apply name arguments)
      (other.applyHead apply' name arguments)) :
    (exprs : List Expr) →
      SameUnless stop (Expr.evalAllIn scope apply exprs) (Expr.evalAllIn other apply' exprs)
  | [] => .refl _
  | expr :: exprs =>
    (sameUnless_evalIn hlookup hhead expr).bind fun _ =>
      (sameUnless_evalAllIn hlookup hhead exprs).bind fun _ => .refl _

end

/-- With the same tools, a name is applied alike if user functions are, by recursion on the number
of arguments. The name of a builtin or a tool is never applied as that of a user function. -/
theorem sameUnless_applyName {registry : Registry} {user user' : Application}
    (huser : ∀ name arguments, HigherOrder.ofName? name = none → registry.get? name = none →
      SameUnless stop (user name arguments) (user' name arguments))
    (name : String) (arguments : List Value) :
    SameUnless stop (applyName registry user name arguments)
      (applyName registry user' name arguments) := by
  -- The recursion is that of `applyName` itself: callbacks have fewer arguments.
  induction name, arguments using applyName.induct registry with
  | case1 name arguments builtin hb ih =>
    rw [applyName_higherOrder hb, applyName_higherOrder hb]
    exact sameUnless_run (fun callable fewer hfewer =>
      sameUnless_call (fun inner => ih fewer hfewer inner) callable) builtin
  | case2 name arguments hb tool ht =>
    rw [applyName_tool hb ht, applyName_tool hb ht]
    exact .refl _
  | case3 name arguments hb ht =>
    rw [applyName_user hb ht, applyName_user hb ht]
    -- Only here user functions come in, under a name that nothing else has.
    exact huser name arguments hb ht

end Expressions

/-! ## Interpreters -/

/-- What two interpreters may hold under the name of a user function. The first reports an error
where it has no function or no clause that matches, and only there the second may have one. -/
def SelectsAlikeUnless (stop : Error → Prop) (name : String) :
    Option (List Clause) → Option (List Clause) → Prop
  | none, none => True
  | none, some _ => stop (.undefinedFunction name) ∧ stop (.undefinedVariable name)
  | some clauses, some others => ∀ arguments,
    firstMatch? others arguments = firstMatch? clauses arguments ∨
      firstMatch? clauses arguments = none ∧
        stop (.noClauseMatched name (arguments.map Value.text))
  | some _, none => False

theorem SelectsAlikeUnless.refl (stop : Error → Prop) (name : String)
    (stored : Option (List Clause)) : SelectsAlikeUnless stop name stored stored := by
  cases stored with
  | none => trivial
  | some clauses => exact fun _ => .inl rfl

theorem SelectsAlikeUnless.cases {stop : Error → Prop} {name : String}
    {first second : Option (List Clause)} (h : SelectsAlikeUnless stop name first second) :
    (first = none ∧
      (second = none ∨ stop (.undefinedFunction name) ∧ stop (.undefinedVariable name))) ∨
    ∃ clauses others, first = some clauses ∧ second = some others ∧ ∀ arguments,
      firstMatch? others arguments = firstMatch? clauses arguments ∨
        firstMatch? clauses arguments = none ∧
          stop (.noClauseMatched name (arguments.map Value.text)) := by
  cases first with
  | none =>
    cases second with
    | none => exact .inl ⟨rfl, .inl rfl⟩
    | some others => exact .inl ⟨rfl, .inr h⟩
  | some clauses =>
    cases second with
    | none => exact h.elim
    | some others => exact .inr ⟨clauses, others, rfl, rfl, h⟩

/-- Two interpreters that are alike, except where the first reports an error: a name may have a
value in the second that stands for nothing in the first, and the functions of the second may
select a clause where those of the first do not. The tools are the same, and what is defined under
the name of a builtin or a tool does not matter. -/
structure Interpreter.AlikeUnless (stop : Error → Prop) (interp other : Interpreter) : Prop where
  maxDepth : other.maxDepth = interp.maxDepth
  registry : other.registry = interp.registry
  globals : ∀ name, other.globals.get? name = interp.globals.get? name ∨
    interp.globals.get? name = none ∧ interp.isFunction name = false ∧
      stop (.undefinedFunction name) ∧ stop (.undefinedVariable name)
  functions : ∀ name, HigherOrder.ofName? name = none → interp.registry.get? name = none →
    SelectsAlikeUnless stop name (interp.definitions.get? name) (other.definitions.get? name)

/-- Clauses for one function are noticed only where they select differently from what was there. -/
theorem Interpreter.alikeUnless_of_selects {stop : Error → Prop} {interp : Interpreter}
    {name : String} {clauses : List Clause}
    (h : HigherOrder.ofName? name = none → interp.registry.get? name = none →
      SelectsAlikeUnless stop name (interp.definitions.get? name) (some clauses)) :
    interp.AlikeUnless stop (interp.defineFunction name clauses) where
  maxDepth := rfl
  registry := rfl
  globals _ := .inl rfl
  functions other hb ht := by
    -- Only the one name has other clauses than before.
    rw [interp.get?_defineFunction]
    split
    · rename_i same
      subst same
      exact h hb ht
    · exact .refl _ other _

/-- A name that is no function is reported when it is applied. -/
theorem Interpreter.applyName_undefined {interp : Interpreter} {name : String}
    (undefined : interp.isFunction name = false) (depth : Nat) (arguments : List Value) :
    applyName interp.registry (interp.applyUser depth) name arguments =
      .error (.undefinedFunction name) := by
  obtain ⟨hb, ht, hd⟩ := isFunction_eq_false_iff.mp undefined
  rw [applyName_user hb ht, interp.applyUser_undefined hd]

namespace Interpreter.AlikeUnless

variable {stop : Error → Prop} {interp other : Interpreter} (h : interp.AlikeUnless stop other)
include h

/-- A name that is a function in the second only stands for nothing in the first. -/
theorem isFunction_eq (name : String) : other.isFunction name = interp.isFunction name ∨
    interp.isFunction name = false ∧ stop (.undefinedVariable name) := by
  -- Builtins and tools are the same in both, so they are functions in both or in neither.
  cases hb : HigherOrder.ofName? name with
  | some builtin => exact .inl (by simp [isFunction, hb])
  | none =>
    cases ht : interp.registry.get? name with
    | some tool => exact .inl (by simp [isFunction, Names.contains, h.registry, ht])
    | none =>
      rcases (h.functions name hb ht).cases with
        ⟨hd, hd' | ⟨-, hstop⟩⟩ | ⟨clauses, others, hd, hd', -⟩
      · exact .inl (by simp [isFunction, Names.contains, h.registry, hd, hd'])
      · exact .inr ⟨isFunction_eq_false_iff.mpr ⟨hb, ht, hd⟩, hstop⟩
      · exact .inl (by simp [isFunction, Names.contains, h.registry, hd, hd'])

/-- Under any bindings, a name has the same value in both, or it stands for nothing in the
first. -/
theorem value?_eq (frame : Bindings) (name : String) :
    (other.scope frame).value? name = (interp.scope frame).value? name ∨
      (interp.scope frame).value? name = none ∧ interp.isFunction name = false ∧
        stop (.undefinedFunction name) ∧ stop (.undefinedVariable name) := by
  -- The bindings of a clause are the same in both and come before the variables.
  show Option.or _ _ = Option.or _ _ ∨ Option.or _ _ = none ∧ _
  cases frame.get? name with
  | some value => exact .inl rfl
  | none => exact h.globals name

theorem sameUnless_lookup (frame : Bindings) (name : String) :
    SameUnless stop ((interp.scope frame).lookup name) ((other.scope frame).lookup name) := by
  have hscope (any : Interpreter) : (any.scope frame).isFunction name = any.isFunction name := rfl
  unfold Scope.lookup
  rcases h.value?_eq frame name with same | ⟨absent, undefined, -, hstop⟩
  · rw [same, hscope, hscope]
    rcases h.isFunction_eq name with same | ⟨undefined, hstop⟩
    · rw [same]
      exact .refl _
    · -- The second takes the name for a function, if it has no value.
      cases (interp.scope frame).value? name with
      | some value => exact .refl _
      | none =>
        simp only [undefined]
        exact .of_stop hstop _
  · simp only [absent, hscope, undefined]
    exact .of_stop hstop _

/-- A name that stands for nothing is reported when it is applied, so the two apply heads alike. -/
theorem sameUnless_applyHead {depth : Nat} {apply : Application}
    (happly : ∀ name arguments, SameUnless stop
      (applyName interp.registry (interp.applyUser depth) name arguments) (apply name arguments))
    (frame : Bindings) (name : String) (arguments : List Value) :
    SameUnless stop
      ((interp.scope frame).applyHead (applyName interp.registry (interp.applyUser depth)) name
        arguments)
      ((other.scope frame).applyHead apply name arguments) := by
  unfold Scope.applyHead
  -- With the same value, or none in both, the same is applied; a value that only the second has
  -- stands against a report of the first.
  rcases h.value?_eq frame name with same | ⟨absent, undefined, hstop, -⟩
  · rw [same]
    split
    · exact sameUnless_call (fun inner => happly inner arguments) _
    · exact .refl _
    · exact happly name arguments
  · simp only [absent, applyName_undefined undefined]
    exact .of_stop hstop _

theorem sameUnless_eval {depth : Nat} {apply : Application}
    (happly : ∀ name arguments, SameUnless stop
      (applyName interp.registry (interp.applyUser depth) name arguments) (apply name arguments))
    (expr : Expr) (frame : Bindings) :
    SameUnless stop
      (expr.evalIn (interp.scope frame) (applyName interp.registry (interp.applyUser depth)))
      (expr.evalIn (other.scope frame) apply) :=
  sameUnless_evalIn (h.sameUnless_lookup frame) (h.sameUnless_applyHead happly frame) expr

omit h in
/-- What is not defined in the first is not defined in the second, or the first stops. -/
theorem sameUnless_undefined {name : String} (hd : interp.definitions.get? name = none)
    (hother : other.definitions.get? name = none ∨
      stop (.undefinedFunction name) ∧ stop (.undefinedVariable name))
    (depth : Nat) (arguments : List Value) :
    SameUnless stop (interp.applyUser depth name arguments)
      (other.applyUser depth name arguments) := by
  rw [interp.applyUser_undefined hd]
  rcases hother with hd' | ⟨hstop, -⟩
  · rw [other.applyUser_undefined hd']
    exact .refl _
  · exact .of_stop hstop _

/-- User functions are applied alike, by induction on the depth that is left. -/
theorem sameUnless_applyUser (depth : Nat) (name : String) (arguments : List Value)
    (hb : HigherOrder.ofName? name = none) (ht : interp.registry.get? name = none) :
    SameUnless stop (interp.applyUser depth name arguments)
      (other.applyUser depth name arguments) := by
  -- Depth decreases in both alike, and the limit that is reported is the same.
  induction depth generalizing name arguments with
  | zero =>
    rcases (h.functions name hb ht).cases with ⟨hd, hother⟩ | ⟨clauses, others, hd, hd', -⟩
    · exact sameUnless_undefined hd hother 0 arguments
    · rw [interp.applyUser_zero hd, other.applyUser_zero hd', h.maxDepth]
      exact .refl _
  | succ depth ih =>
    rcases (h.functions name hb ht).cases with ⟨hd, hother⟩ | ⟨clauses, others, hd, hd', hselect⟩
    · exact sameUnless_undefined hd hother (depth + 1) arguments
    -- Either the same clause is selected, or the first has none and reports that.
    · rcases hselect arguments with same | ⟨hm, hstop⟩
      · cases hm : firstMatch? clauses arguments with
        | none =>
          rw [interp.applyUser_unmatched hd hm, other.applyUser_unmatched hd' (same.trans hm)]
          exact .refl _
        | some selected =>
          -- The same body is evaluated, with one level less.
          rw [interp.applyUser_matched hd hm, other.applyUser_matched hd' (same.trans hm),
            h.registry]
          exact h.sameUnless_eval (sameUnless_applyName ih) selected.1 selected.2
      · rw [interp.applyUser_unmatched hd hm]
        exact .of_stop hstop _

/-- **Interpreters that are alike up to an error answer alike up to that error.** -/
theorem sameUnless_answer (request : Request) :
    SameUnless stop (interp.answer request) (other.answer request) := by
  -- Names are applied at the top with the whole limit left.
  have happly : ∀ name arguments,
      SameUnless stop (interp.apply name arguments) (other.apply name arguments) := by
    unfold apply
    rw [h.maxDepth, h.registry]
    exact sameUnless_applyName (h.sameUnless_applyUser interp.maxDepth)
  cases request with
  | evaluate text =>
    exact (SameUnless.refl (Expr.parse text)).bind fun expr =>
      h.sameUnless_eval happly expr Names.empty
  | eval expr frame => exact h.sameUnless_eval happly expr frame
  | apply name arguments => exact happly name arguments
  | call callable arguments => exact sameUnless_call (fun inner => happly inner arguments) callable

/-- An answer that is none of the errors stays the same. -/
theorem answer_eq {request : Request}
    (hstop : ∀ error, stop error → interp.answer request ≠ .error error) :
    other.answer request = interp.answer request :=
  (h.sameUnless_answer request).eq_of_not_stop hstop

end Interpreter.AlikeUnless

/-! ## Interpreters that look alike -/

/-- Two interpreters with the same limit and the same tools, in which every name stands for the same
function and the same variable. -/
structure Interpreter.Alike (interp other : Interpreter) : Prop where
  maxDepth : interp.maxDepth = other.maxDepth
  registry : interp.registry = other.registry
  definitions : ∀ name, interp.definitions.get? name = other.definitions.get? name
  globals : ∀ name, interp.globals.get? name = other.globals.get? name

namespace Interpreter.Alike

variable {interp other : Interpreter} (h : interp.Alike other)
include h

/-- Interpreters that look alike are so without an exception. -/
theorem alikeUnless : interp.AlikeUnless (fun _ => False) other where
  maxDepth := h.maxDepth.symm
  registry := h.registry.symm
  globals name := .inl (h.globals name).symm
  functions name _ _ := by
    rw [h.definitions]
    exact .refl _ name _

/-- **Interpreters that look alike answer alike.** In which order names were defined makes no
difference. -/
theorem answer_eq (request : Request) : interp.answer request = other.answer request :=
  (h.alikeUnless.answer_eq fun _ stops => stops.elim).symm

/-- The case of a text. -/
theorem evaluate_eq (text : String) : interp.evaluate text = other.evaluate text :=
  h.answer_eq (.evaluate text)

end Interpreter.Alike

end Clausal
