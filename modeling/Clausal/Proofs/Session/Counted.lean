import Clausal.Proofs.Evaluation.Counted
import Clausal.Proofs.Session.Run

/-!
# Sessions with a counter

`Session` keeps nothing but the settings, the functions and the variables. A machine also keeps
the counter of user functions in progress, which an evaluation reads and changes and which an
error does not restore by itself. This file gives sessions in that form: the counter belongs to
the interpreter, every evaluation starts from the count that the one before it left, and a program
is loaded by a new interpreter with a counter of its own.

Main statement:
* `eventually_run`: from a counter at zero a machine goes through any run like its session, and
  the counter is at zero again at the end.
-/

namespace Clausal

/-! ## Loading and answering with a counter -/

/-- Takes in one line of a program with a counter. -/
def Loading.addCounted (fuel : Nat) (loading : Loading) : Line → Counted Loading
  | .clause name clause => return loading.addClause name clause
  | .binding name expression => do
    let interpreter := loading.complete
    let value ← interpreter.answerCounted fuel (.evaluate expression)
    return ⟨← Counted.ofResult (interpreter.defineVariable name value), none⟩
  | .blank | .guard | .malformed _ => return loading

/-- The interpreter that a program defines, with a counter. -/
def Interpreter.ofProgramCounted [WordClass] (fuel : Nat) (registry : Registry)
    (commentMarker : String) (maxDepth : Nat) (program : String) : Counted Interpreter := do
  let lines := (Text.lines program).map (Line.classify commentMarker)
  return (← lines.foldlM (Loading.addCounted fuel) (Loading.start registry maxDepth)).complete

/-- What a line does to a session, with a counter. -/
def Session.answerCounted [WordClass] (fuel : Nat) (session : Session) (line : String) :
    Counted (Session × String) :=
  match Line.classify session.config.commentMarker line with
  | .blank => return (session, "")
  | .binding name expression => do
    if session.interpreter.globals.contains name then
      throw (.immutableReassignment name)
    else
      let value ← session.interpreter.answerCounted fuel (.evaluate expression)
      let interpreter ← Counted.ofResult (session.interpreter.defineVariable name value)
      return ({ session with interpreter := interpreter }, name ++ " = " ++ value.text)
  | .guard | .clause _ _ | .malformed _ => do
    return (session, (← session.interpreter.answerCounted fuel (.evaluate line)).text)

/-! ## Machines -/

/-- A session with the counter of its interpreter. -/
structure Machine where
  session : Session
  depth : Nat

namespace Machine

variable [WordClass]

/-- What an operation does to a machine. An operation that fails leaves the session as it is, and
the counter where the evaluation left it. -/
def perform (fuel : Nat) (machine : Machine) : Operation → Option (Machine × Outcome)
  | .load program => do
    let config := machine.session.config
    -- The old interpreter is dropped with its counter, but only if the program succeeds.
    let registry := machine.session.interpreter.registry
    match ← (Interpreter.ofProgramCounted fuel registry config.commentMarker config.maxDepth
        program).runFrom 0 with
    | (.ok interpreter, depth) =>
      let loaded : Session := { machine.session with interpreter := interpreter }
      return (⟨loaded, depth⟩, .loaded (.ok loaded.report))
    | (.error error, _) => return (machine, .loaded (.error error))
  | .enter line => do
    match ← (machine.session.answerCounted fuel line).runFrom machine.depth with
    | (.ok (next, text), depth) => return (⟨next, depth⟩, .entered (.ok text))
    | (.error error, depth) => return (⟨machine.session, depth⟩, .entered (.error error))
  | .evaluate text => do
    let (result, depth) ←
      (machine.session.interpreter.answerCounted fuel (.evaluate text)).runFrom machine.depth
    return (⟨machine.session, depth⟩, .evaluated result)
  | .apply name arguments => do
    let (result, depth) ←
      (machine.session.interpreter.answerCounted fuel (.apply name arguments)).runFrom
        machine.depth
    return (⟨machine.session, depth⟩, .evaluated result)

/-- A machine after a sequence of operations, and the events on the way. -/
def run (fuel : Nat) (machine : Machine) : List Operation → Option (Machine × List Event)
  | [] => some (machine, [])
  | operation :: operations => do
    let (next, outcome) ← machine.perform fuel operation
    let (last, events) ← next.run fuel operations
    return (last, ⟨operation, outcome⟩ :: events)

end Machine

/-! ## Settling -/

namespace Counted

/-- An answer that starts from zero is that of the interpreter, and ends at zero. -/
theorem settles_answer_zero (interp : Interpreter) (request : Request) :
    Settles (fun fuel => interp.answerCounted fuel request) 0 (interp.answer request) := by
  have h := settles_answer interp 0 request
  rwa [Nat.sub_zero, ← interp.answer_eq_answerWith] at h

theorem settles_add (loading : Loading) (line : Line) :
    Settles (fun fuel => loading.addCounted fuel line) 0 (loading.add line) := by
  -- Only a binding evaluates anything, and it starts from the count that it leaves behind.
  cases line with
  | clause name clause => exact settles_pure (loading.addClause name clause) 0
  | binding name expression =>
    refine (settles_answer_zero loading.complete (.evaluate expression)).bind fun value => ?_
    refine (settles_ofResult (loading.complete.defineVariable name value) 0).bind
      fun interpreter => ?_
    exact settles_pure (⟨interpreter, none⟩ : Loading) 0
  | blank | guard | malformed => exact settles_pure loading 0

theorem settles_addAll (loading : Loading) (lines : List Line) :
    Settles (fun fuel => lines.foldlM (Loading.addCounted fuel) loading) 0
      (loading.addAll lines) := by
  induction lines generalizing loading with
  -- Each line starts from zero because the one before it ends there.
  | nil => exact settles_pure loading 0
  | cons line lines ih =>
    simp only [List.foldlM_cons, Loading.addAll]
    exact (settles_add loading line).bind fun next => ih next

theorem settles_ofProgram [WordClass] (registry : Registry) (commentMarker : String)
    (maxDepth : Nat) (program : String) :
    Settles
      (fun fuel => Interpreter.ofProgramCounted fuel registry commentMarker maxDepth program) 0
      (Interpreter.ofProgram registry commentMarker maxDepth program) :=
  (settles_addAll (Loading.start registry maxDepth) _).bind fun loading =>
    settles_pure loading.complete 0

theorem settles_answerLine [WordClass] (session : Session) (line : String) :
    Settles (fun fuel => session.answerCounted fuel line) 0 (session.answer line) := by
  unfold Session.answerCounted Session.answer
  cases Line.classify session.config.commentMarker line with
  | blank => exact settles_pure (session, "") 0
  | binding name expression =>
    unfold Session.bindLine
    by_cases bound : session.interpreter.globals.contains name = true
    · -- A bound name is refused before anything is evaluated.
      simp only [bound, ↓reduceIte]
      exact settles_throw (.immutableReassignment name) 0
    · simp only [bound, Bool.false_eq_true, ↓reduceIte]
      refine (settles_answer_zero session.interpreter (.evaluate expression)).bind
        fun value => ?_
      refine (settles_ofResult (session.interpreter.defineVariable name value) 0).bind
        fun interpreter => ?_
      exact settles_pure ({ session with interpreter := interpreter : Session },
        name ++ " = " ++ value.text) 0
  | guard | clause | malformed =>
    exact (settles_answer_zero session.interpreter (.evaluate line)).bind fun value =>
      settles_pure (session, value.text) 0

end Counted

/-! ## Runs -/

namespace Machine

variable [WordClass]

/-- With enough fuel, an operation does to a machine with the counter at zero what it does to the
session, and leaves the counter at zero. -/
theorem eventually_perform (session : Session) (operation : Operation) :
    ∀ᶠ fuel in Filter.atTop, (⟨session, 0⟩ : Machine).perform fuel operation =
      some (⟨(session.perform operation).1, 0⟩, (session.perform operation).2) := by
  cases operation with
  | load program =>
    -- The program settles, and what is done with it follows by cases of its outcome.
    filter_upwards [Counted.settles_ofProgram session.interpreter.registry
      session.config.commentMarker session.config.maxDepth program] with fuel hfuel
    simp only [perform, hfuel, Option.bind_eq_bind, Option.bind_some]
    cases hprogram : Interpreter.ofProgram session.interpreter.registry
        session.config.commentMarker session.config.maxDepth program with
    | error error =>
      rw [Session.perform, Session.load_of_error hprogram]
      rfl
    | ok interpreter =>
      rw [Session.perform, Session.load_of_ok hprogram]
      rfl
  | enter line =>
    filter_upwards [Counted.settles_answerLine session line] with fuel hfuel
    simp only [perform, hfuel, Option.bind_eq_bind, Option.bind_some]
    cases hanswer : session.answer line with
    | error error =>
      rw [Session.perform, Session.enter_of_error hanswer]
      rfl
    | ok answered =>
      rw [Session.perform, Session.enter_of_ok hanswer]
      rfl
  | evaluate text =>
    filter_upwards [Counted.settles_answer_zero session.interpreter (.evaluate text)]
      with fuel hfuel
    simp only [perform, hfuel, Option.bind_eq_bind, Option.bind_some]
    rfl
  | apply name arguments =>
    filter_upwards [Counted.settles_answer_zero session.interpreter (.apply name arguments)]
      with fuel hfuel
    simp only [perform, hfuel, Option.bind_eq_bind, Option.bind_some]
    rfl

/-- With enough fuel, a machine with the counter at zero goes through a run like its session, and
the counter is at zero again at the end. -/
theorem eventually_run (session : Session) (operations : List Operation) :
    ∀ᶠ fuel in Filter.atTop, (⟨session, 0⟩ : Machine).run fuel operations =
      some (⟨session.after operations, 0⟩, session.events operations) := by
  induction operations generalizing session with
  | nil => exact Filter.Eventually.of_forall fun fuel => rfl
  | cons operation operations ih =>
    -- Fuel that is enough for the first operation and for the others is enough for all.
    filter_upwards [eventually_perform session operation, ih (session.perform operation).1]
      with fuel hfirst hrest
    rw [run, hfirst]
    simp only [Option.bind_eq_bind, Option.bind_some, hrest]
    rfl

end Machine

end Clausal
