import Clausal.Proofs.Evaluation.FunctionNames
import Clausal.Proofs.Session.Declarations

/-!
# No dangling functions

A variable can hold a function that is no more than a name, and keeps it while programs are loaded
and further variables are bound. Functions that are defined are never taken back, short of loading
another program, which takes the variables along; so in every session the name still stands for a
function, and so does every such name in a result.

Main statements:
* `sound_after`: the functions that variables hold exist, after any run of a session;
* `no_dangling_functions`: so do those in results, and only a name that is applied somewhere and
  defined nowhere is reported as an undefined function.
-/

namespace Clausal

namespace Interpreter

/-- An interpreter with plain tools, whose variables hold functions that exist. -/
structure Sound (interp : Interpreter) : Prop where
  tools : interp.registry.Plain
  globals : ∀ name value, interp.globals.get? name = some value →
    value.Knows fun function => interp.isFunction function = true

/-- A name is applied in a text or in a clause of a function. -/
def Applies (interp : Interpreter) (text name : String) : Prop :=
  (∃ expr, Expr.parse text = .ok expr ∧ name ∈ expr.heads) ∨
    ∃ function clauses, interp.definitions.get? function = some clauses ∧
      ∃ clause ∈ clauses, name ∈ clause.body.heads

/-- A name that is applied although it stands for nothing, neither a function nor a variable. -/
def Lacks (interp : Interpreter) (text name : String) : Prop :=
  interp.Applies text name ∧ interp.isFunction name = false ∧ interp.globals.get? name = none

/-- A function that exists goes on to exist as long as no definition disappears. -/
theorem isFunction_mono {interp next : Interpreter} {name : String}
    (tools : next.registry = interp.registry)
    (h : (interp.definitions.get? name).isSome → (next.definitions.get? name).isSome)
    (function : interp.isFunction name = true) : next.isFunction name = true := by
  -- A builtin stays because the tools do, and a user function because its definition does.
  unfold isFunction Names.contains at function ⊢
  rw [tools]
  simp only [Bool.or_eq_true] at function ⊢
  exact function.imp_right h

section Sound

variable {interp : Interpreter}

/-- A head that is no variable is a function or a lacking name. -/
theorem accounts_of_applies {text name : String} (h : interp.Applies text name)
    (unbound : interp.globals.get? name = none) : interp.Accounts (interp.Lacks text) name := by
  cases function : interp.isFunction name with
  | true => exact .inl function
  | false => exact .inr ⟨h, function, unbound⟩

/-- What a text evaluates to. -/
theorem Sound.confined_evaluate (h : interp.Sound) (text : String) :
    Confined (Value.Knows fun name => interp.isFunction name = true) (interp.Lacks text)
      (interp.evaluate text) := by
  -- Heads in clauses are functions, variables or lacking names, so the clauses are closed.
  have closed : interp.Closed (fun name => interp.isFunction name = true) (interp.Lacks text) := by
    refine ⟨h.tools, fun _ => id, fun _ => .inl, h.globals, ?_⟩
    intro name clauses stored clause mem head inside unbound
    exact accounts_of_applies (.inr ⟨name, clauses, stored, clause, mem, inside⟩) unbound
  have hrequest : (Request.evaluate text).Closed interp (fun name => interp.isFunction name = true)
      (interp.Lacks text) := by
    intro expr hparse head inside unbound
    exact accounts_of_applies (.inl ⟨expr, hparse, inside⟩) unbound
  exact confined_answer closed hrequest

/-- A name that is a function is never reported as an undefined one, whatever is asked. -/
theorem answer_ne_undefinedFunction (tools : interp.registry.Plain) {name : String}
    (function : interp.isFunction name = true) (request : Request) :
    interp.answer request ≠ .error (.undefinedFunction name) := by
  let missing (name : String) : Prop := ¬ interp.isFunction name = true
  have accounts (name : String) : interp.Accounts missing name := Classical.em _
  -- All names are known here, so nothing is asked of values and requests.
  have closed : interp.Closed (fun _ => True) missing :=
    ⟨tools, fun _ _ => trivial, fun name _ => accounts name, fun _ _ _ _ _ => trivial,
      fun _ _ _ _ _ head _ _ => accounts head⟩
  have hrequest : request.Closed interp (fun _ => True) missing := by
    cases request with
    | evaluate text => exact fun _ _ head _ _ => accounts head
    | eval expr frame => exact ⟨fun _ _ _ _ _ => trivial, fun head _ _ => accounts head⟩
    | apply applied arguments => exact ⟨accounts applied, fun _ _ _ _ => trivial⟩
    | call callable arguments => exact ⟨fun _ _ => trivial, fun _ _ _ _ => trivial⟩
  intro undefined
  exact (confined_answer closed hrequest).undefined name undefined function

theorem sound_withRegistry {registry : Registry} (tools : registry.Plain) (maxDepth : Nat) :
    (withRegistry registry maxDepth).Sound where
  tools := tools
  globals name value found := by simp [withRegistry] at found

/-- Results can be kept in variables. -/
theorem Sound.insert (h : interp.Sound) {name expression : String} {value : Value}
    (hvalue : interp.evaluate expression = .ok value) :
    Sound { interp with globals := interp.globals.insert name value } where
  tools := h.tools
  globals other current found := by
    rw [Names.get?_insert] at found
    split at found
    · obtain rfl := Option.some.inj found
      exact (h.confined_evaluate expression).value _ hvalue
    · exact h.globals other current found

end Sound

/-- The variables of a program hold functions that exist when the program is loaded. -/
theorem sound_ofProgram [WordClass] {registry : Registry} {marker program : String} {maxDepth : Nat}
    {interp : Interpreter} (tools : registry.Plain)
    (h : ofProgram registry marker maxDepth program = .ok interp) : interp.Sound := by
  obtain ⟨last, hload, rfl⟩ := exists_declareAll_of_ofProgram_eq_ok h
  have hstart : (Loading.start registry maxDepth).complete.Sound :=
    sound_withRegistry tools maxDepth
  refine Loading.declareAll_induction (P := fun loading => loading.complete.Sound) ?_ hstart hload
  intro loading next declaration sound hnext
  cases declaration with
  | clause name added =>
    -- The clause may replace the clauses of its function, which exists before and after.
    obtain rfl := Except.ok.inj hnext
    have hcomplete (function : String) := loading.complete_addClause name function added
    refine ⟨?_, fun other value found function inside => ?_⟩
    · rw [(hcomplete "").2.1]
      exact sound.tools
    · rw [(hcomplete function).2.2.1] at found
      refine isFunction_mono (hcomplete function).2.1 (fun stored => ?_)
        (sound.globals other value found function inside)
      rw [(hcomplete function).2.2.2]
      split
      · rfl
      · exact stored
  | binding name expression =>
    obtain ⟨value, hvalue, -, rfl⟩ := Loading.addBinding_eq_ok_iff.mp hnext
    exact sound.insert hvalue

end Interpreter

namespace Session

variable [WordClass]

/-- An operation leaves a session whose variables hold functions that exist. -/
theorem sound_perform {session : Session} (h : session.interpreter.Sound) (operation : Operation) :
    (session.perform operation).1.interpreter.Sound := by
  rcases perform_cases session operation with
    ⟨unchanged, -⟩ | ⟨program, interpreter, -, hprogram, loaded, -⟩ |
    ⟨line, name, expression, value, -, -, -, hvalue, bound, -⟩
  · rw [unchanged]
    exact h
  · rw [loaded]
    exact Interpreter.sound_ofProgram h.tools hprogram
  · rw [bound]
    exact h.insert hvalue

/-- The functions that variables hold exist, after any run of a session. -/
theorem sound_after {session : Session} (h : session.interpreter.Sound)
    (operations : List Operation) : (session.after operations).interpreter.Sound := by
  induction operations generalizing session with
  | nil => exact h
  | cons operation operations ih => exact ih (sound_perform h operation)

/-- **Function values do not dangle.**

After any run of a new session, each function that a variable or a result holds exists, however
deep it is inside lists and sections. No function that exists is ever reported as undefined, so a
function value is never reported when it is called. What is reported is a name that is applied,
in the text or in a clause, and that is neither a builtin, nor a user function, nor a variable. The
tools are the standard ones throughout. -/
theorem no_dangling_functions (config : Config) (operations : List Operation) :
    let interp := ((new config).after operations).interpreter
    interp.registry = Registry.standard ∧
    -- Variables
    (∀ name value, interp.globals.get? name = some value →
      ∀ function ∈ value.functionNames, interp.isFunction function = true) ∧
    -- Results
    (∀ text value, interp.evaluate text = .ok value →
      ∀ function ∈ value.functionNames, interp.isFunction function = true) ∧
    -- Functions that exist, when they are called or used in any other way
    (∀ function, interp.isFunction function = true → ∀ request,
      interp.answer request ≠ .error (.undefinedFunction function)) ∧
    -- Undefined functions
    (∀ text name, interp.evaluate text = .error (.undefinedFunction name) →
      interp.Applies text name ∧ HigherOrder.ofName? name = none ∧
        interp.registry.get? name = none ∧ interp.definitions.get? name = none ∧
        interp.globals.get? name = none) := by
  intro interp
  have sound : interp.Sound :=
    sound_after (Interpreter.sound_withRegistry Registry.plain_standard config.maxDepth) operations
  refine ⟨registry_after (new config) operations, sound.globals,
    fun text value => (sound.confined_evaluate text).value value,
    fun function => Interpreter.answer_ne_undefinedFunction sound.tools,
    fun text name undefined => ?_⟩
  obtain ⟨applies, function, unbound⟩ := (sound.confined_evaluate text).undefined name undefined
  obtain ⟨hb, ht, hd⟩ := Interpreter.isFunction_eq_false_iff.mp function
  exact ⟨applies, hb, ht, hd, unbound⟩

end Session

end Clausal
