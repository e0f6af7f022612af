import Clausal.Session.Basic
import Mathlib.Data.List.Basic

/-!
# Runs of a session

A host uses a session in four ways: it loads programs, enters lines, evaluates expressions and
applies names. This file puts the four under one type of operations, says once what an operation
can do to a session, and follows a session through any sequence of operations.

Main statements:
* `perform_cases`: an operation changes nothing, loads a program or binds a variable;
* `after_append`, `events_append`: a run can be cut anywhere.
-/

namespace Clausal

/-! ## Operations and events -/

/-- One use of a session. -/
inductive Operation where
  /-- To load a program. -/
  | load (program : String)
  /-- To enter a line. -/
  | enter (line : String)
  /-- To evaluate an expression. -/
  | evaluate (text : String)
  /-- To apply a name to arguments. -/
  | apply (name : String) (arguments : List Value)

/-- What the host gets back from an operation. -/
inductive Outcome where
  | loaded (result : Except Error LoadReport)
  | entered (result : Except Error String)
  | evaluated (result : Result)

/-- An operation with what the host got back. -/
structure Event where
  operation : Operation
  outcome : Outcome

/-- Whether an operation has failed. -/
def Outcome.failed : Outcome → Bool
  | .loaded result => !result.toBool
  | .entered result => !result.toBool
  | .evaluated result => !result.toBool

/-- Whether a line holds nothing. -/
def Line.isBlank : Line → Bool
  | .blank => true
  | _ => false

/-- Whether a line binds a variable. -/
def Line.isBinding : Line → Bool
  | .binding _ _ => true
  | _ => false

namespace Event

variable [WordClass]

/-- Whether a program was loaded. -/
def loads (event : Event) : Bool :=
  match event.operation with
  | .load _ => !event.outcome.failed
  | _ => false

/-- Whether a line was entered that bound a variable. -/
def binds (marker : String) (event : Event) : Bool :=
  match event.operation with
  | .enter line => (Line.classify marker line).isBinding && !event.outcome.failed
  | _ => false

/-- Whether the operation is of those that evaluate an expression and do nothing else. -/
def onlyEvaluates (marker : String) (event : Event) : Bool :=
  match event.operation with
  | .load _ => false
  | .enter line =>
    !(Line.classify marker line).isBlank && !(Line.classify marker line).isBinding
  | .evaluate _ | .apply _ _ => true

end Event

/-! ## Steps -/

namespace Session

/-- A binding succeeds exactly if the name is not bound and the expression has a value. -/
theorem bindLine_eq_ok_iff {session : Session} {name expression text : String} {next : Session} :
    session.bindLine name expression = .ok (next, text) ↔
      session.interpreter.globals.get? name = none ∧
        ∃ value, session.interpreter.evaluate expression = .ok value ∧
          next = { session with interpreter := { session.interpreter with
            globals := session.interpreter.globals.insert name value } } ∧
          text = name ++ " = " ++ value.text := by
  unfold bindLine Interpreter.defineVariable Names.contains
  cases session.interpreter.globals.get? name with
  -- A bound name is refused before the expression is evaluated.
  | some current => simp
  | none =>
    cases session.interpreter.evaluate expression with
    | error error => simp [bind, Except.bind]
    | ok value => simp [bind, Except.bind, pure, Except.pure, eq_comm]

variable [WordClass]

/-- What an operation does to a session, and what the host gets back. -/
def perform (session : Session) : Operation → Session × Outcome
  | .load program => ((session.load program).1, .loaded (session.load program).2)
  | .enter line => ((session.enter line).1, .entered (session.enter line).2)
  | .evaluate text => (session, .evaluated (session.evaluate text))
  | .apply name arguments => (session, .evaluated (session.apply name arguments))

/-- An operation as an event of a session. -/
def event (session : Session) (operation : Operation) : Event :=
  ⟨operation, (session.perform operation).2⟩

section Steps

variable {session : Session}

theorem load_of_ok {program : String} {interpreter : Interpreter}
    (h : Interpreter.ofProgram session.interpreter.registry session.config.commentMarker
      session.config.maxDepth program = .ok interpreter) :
    session.load program =
      ({ session with interpreter := interpreter },
        .ok { session with interpreter := interpreter : Session }.report) := by
  simp only [load, h]

theorem load_of_error {program : String} {error : Error}
    (h : Interpreter.ofProgram session.interpreter.registry session.config.commentMarker
      session.config.maxDepth program = .error error) :
    session.load program = (session, .error error) := by
  simp only [load, h]

theorem enter_of_ok {line text : String} {next : Session}
    (h : session.answer line = .ok (next, text)) : session.enter line = (next, .ok text) := by
  simp only [enter, h]

theorem enter_of_error {line : String} {error : Error} (h : session.answer line = .error error) :
    session.enter line = (session, .error error) := by
  simp only [enter, h]

/-- A line that binds nothing leaves the session as it is. -/
theorem fst_enter_of_not_binding {line : String}
    (h : (Line.classify session.config.commentMarker line).isBinding = false) :
    (session.enter line).1 = session := by
  cases hanswer : session.answer line with
  | error error => rw [enter_of_error hanswer]
  | ok answered =>
    obtain ⟨next, text⟩ := answered
    rw [enter_of_ok hanswer]
    unfold answer at hanswer
    -- By the sort of the line
    cases hline : Line.classify session.config.commentMarker line with
    | binding name expression => simp [hline, Line.isBinding] at h
    | blank =>
      rw [hline] at hanswer
      cases hanswer
      rfl
    | guard | clause | malformed =>
      -- Any other line is an expression, and the session is handed back as it was.
      rw [hline] at hanswer
      cases hvalue : session.interpreter.evaluate line with
      | error error => simp [hvalue, bind, Except.bind] at hanswer
      | ok value =>
        simp [hvalue, bind, Except.bind, pure, Except.pure] at hanswer
        exact hanswer.1.symm

/-- A line that binds a variable adds it and changes nothing else. A line that fails to do so
changes nothing. -/
theorem enter_binding {line name expression : String}
    (h : Line.classify session.config.commentMarker line = .binding name expression) :
    (∃ value, session.interpreter.globals.get? name = none ∧
        session.interpreter.evaluate expression = .ok value ∧
        session.enter line = ({ session with interpreter := { session.interpreter with
          globals := session.interpreter.globals.insert name value } },
            .ok (name ++ " = " ++ value.text))) ∨
      ∃ error, session.enter line = (session, .error error) := by
  -- What is answered is what the binding does, and an answer that fails is dropped.
  have hanswer : session.answer line = session.bindLine name expression := by
    simp only [answer, h]
  cases hbind : session.bindLine name expression with
  | error error => exact .inr ⟨error, enter_of_error (hanswer.trans hbind)⟩
  | ok bound =>
    obtain ⟨next, text⟩ := bound
    obtain ⟨unbound, value, hvalue, rfl, rfl⟩ := bindLine_eq_ok_iff.mp hbind
    exact .inl ⟨value, unbound, hvalue, enter_of_ok (hanswer.trans hbind)⟩

/-- What an operation can do to a session: nothing, replace the interpreter by that of a program,
or bind a variable. -/
theorem perform_cases (session : Session) (operation : Operation) :
    ((session.perform operation).1 = session ∧ (session.event operation).loads = false ∧
      (session.event operation).binds session.config.commentMarker = false) ∨
    (∃ program interpreter, operation = .load program ∧
      Interpreter.ofProgram session.interpreter.registry session.config.commentMarker
        session.config.maxDepth program = .ok interpreter ∧
      (session.perform operation).1 = { session with interpreter := interpreter } ∧
      (session.event operation).loads = true) ∨
    (∃ line name expression value, operation = .enter line ∧
      Line.classify session.config.commentMarker line = .binding name expression ∧
      session.interpreter.globals.get? name = none ∧
      session.interpreter.evaluate expression = .ok value ∧
      (session.perform operation).1 = { session with interpreter := { session.interpreter with
        globals := session.interpreter.globals.insert name value } } ∧
      (session.event operation).binds session.config.commentMarker = true) := by
  cases operation with
  | load program =>
    -- A program is loaded as a whole or not at all.
    cases hprogram : Interpreter.ofProgram session.interpreter.registry
        session.config.commentMarker session.config.maxDepth program with
    | error error =>
      refine .inl ⟨?_, ?_, rfl⟩
      · simp [perform, load_of_error hprogram]
      · simp [event, perform, load_of_error hprogram, Event.loads, Outcome.failed, Except.toBool]
    | ok interpreter =>
      refine .inr (.inl ⟨program, interpreter, rfl, hprogram, ?_, ?_⟩)
      · simp [perform, load_of_ok hprogram]
      · simp [event, perform, load_of_ok hprogram, Event.loads, Outcome.failed, Except.toBool]
  | enter line =>
    -- Only a line that binds a variable can change the session.
    by_cases hline : (Line.classify session.config.commentMarker line).isBinding = true
    · cases hclass : Line.classify session.config.commentMarker line with
      | binding name expression =>
        rcases enter_binding hclass with ⟨value, unbound, hvalue, henter⟩ | ⟨error, henter⟩
        · refine .inr (.inr ⟨line, name, expression, value, rfl, hclass, unbound, hvalue, ?_, ?_⟩)
          · simp [perform, henter]
          · simp [event, perform, henter, Event.binds, hline, Outcome.failed, Except.toBool]
        · refine .inl ⟨?_, rfl, ?_⟩
          · simp [perform, henter]
          · simp [event, perform, henter, Event.binds, Outcome.failed, Except.toBool]
      | _ => simp [hclass, Line.isBinding] at hline
    · rw [Bool.not_eq_true] at hline
      exact .inl ⟨fst_enter_of_not_binding hline, rfl, by simp [event, Event.binds, hline]⟩
  -- These two hand the session back as it is.
  | evaluate | apply => exact .inl ⟨rfl, rfl, rfl⟩

/-- The settings stay. -/
theorem config_perform (operation : Operation) :
    (session.perform operation).1.config = session.config := by
  rcases perform_cases session operation with
    ⟨h, -⟩ | ⟨_, _, -, -, h, -⟩ | ⟨_, _, _, _, -, -, -, -, h, -⟩
  all_goals rw [h]

end Steps

/-! ## Runs -/

/-- A session after a sequence of operations. -/
def after (session : Session) (operations : List Operation) : Session :=
  operations.foldl (fun current operation => (current.perform operation).1) session

/-- The events of a sequence of operations. -/
def events (session : Session) : List Operation → List Event
  | [] => []
  | operation :: operations =>
    session.event operation :: (session.perform operation).1.events operations

section Runs

variable (session : Session)

@[simp]
theorem after_nil : session.after [] = session := rfl

@[simp]
theorem after_cons (operation : Operation) (operations : List Operation) :
    session.after (operation :: operations) =
      (session.perform operation).1.after operations := rfl

/-- A run can be cut anywhere. -/
theorem after_append (first second : List Operation) :
    session.after (first ++ second) = (session.after first).after second :=
  List.foldl_append

theorem after_concat (operations : List Operation) (operation : Operation) :
    session.after (operations ++ [operation]) =
      ((session.after operations).perform operation).1 :=
  session.after_append operations [operation]

theorem events_append (first second : List Operation) :
    session.events (first ++ second) =
      session.events first ++ (session.after first).events second := by
  induction first generalizing session with
  | nil => rfl
  | cons operation first ih =>
    rw [List.cons_append, events, events, ih, after_cons, List.cons_append]

theorem events_concat (operations : List Operation) (operation : Operation) :
    session.events (operations ++ [operation]) =
      session.events operations ++ [(session.after operations).event operation] :=
  session.events_append operations [operation]

/-- The settings stay, however long the run. -/
theorem config_after (operations : List Operation) :
    (session.after operations).config = session.config := by
  induction operations generalizing session with
  | nil => rfl
  | cons operation operations ih => rw [after_cons, ih, config_perform]

end Runs

end Session

end Clausal
