import Clausal.Proofs.Session.Counted
import Clausal.Proofs.Session.Declarations
import Mathlib.Data.List.Induction

/-!
# What a run leaves behind

Of everything that a host does with a session, only the programs that were loaded and the
variables that were bound leave a trace, and a loaded program wipes out what was there before.

Main statements:
* `after_eq_replay`: a session is what the last loaded program and the bindings since then make it;
* `events_filter`: the events that leave no trace can be left out of a run;
* `get?_after_of_no_load`: until a program is loaded, a bound variable keeps its value;
* `leaves_no_trace`: all of this for any run of a new session, whose evaluations share a counter.
-/

namespace Clausal

/-! ## The operations that count -/

namespace Event

/-- Whether an event leaves a trace: a program was loaded or a variable was bound. -/
def traced [WordClass] (marker : String) (event : Event) : Bool :=
  event.loads || event.binds marker

/-- The events from the last loaded program on, or all of them if no program was loaded. -/
def fromLastLoad : List Event → List Event
  | [] => []
  | event :: events => if events.any loads then fromLastLoad events else event :: events

/-- The operations that make up the state after some events: the last program that was loaded,
if there is one, and the lines that have bound a variable since then. -/
def replay [WordClass] (marker : String) (events : List Event) : List Operation :=
  ((fromLastLoad events).filter (traced marker)).map operation

theorem fromLastLoad_concat_of_loads (events : List Event) {event : Event}
    (h : event.loads = true) : fromLastLoad (events ++ [event]) = [event] := by
  induction events with
  | nil => rfl
  | cons first events ih =>
    rw [List.cons_append, fromLastLoad, if_pos (by simp [h]), ih]

theorem fromLastLoad_concat_of_not_loads (events : List Event) {event : Event}
    (h : event.loads = false) :
    fromLastLoad (events ++ [event]) = fromLastLoad events ++ [event] := by
  induction events with
  | nil => rfl
  | cons first events ih =>
    -- The event is no program, so the last program is where it was.
    have same : (events ++ [event]).any loads = events.any loads := by simp [h]
    rw [List.cons_append, fromLastLoad, fromLastLoad, same, ih]
    split <;> rfl

variable [WordClass] {marker : String} {event : Event}

/-- An event that leaves a trace has not failed and does more than to evaluate an expression. -/
theorem not_failed_of_traced (h : event.traced marker = true) :
    event.outcome.failed = false ∧ event.onlyEvaluates marker = false := by
  obtain ⟨operation, outcome⟩ := event
  -- Only programs and lines leave traces, and only if they succeed.
  cases operation with
  | load program =>
    have ok : outcome.failed = false := by simpa [traced, loads, binds] using h
    exact ⟨ok, rfl⟩
  | enter line =>
    obtain ⟨binding, ok⟩ : (Line.classify marker line).isBinding = true ∧
        outcome.failed = false := by
      simpa [traced, loads, binds] using h
    exact ⟨ok, by simp [onlyEvaluates, binding]⟩
  | evaluate | apply => simp [traced, loads, binds] at h

theorem replay_concat_of_loads (events : List Event) (h : event.loads = true) :
    replay marker (events ++ [event]) = [event.operation] := by
  simp [replay, fromLastLoad_concat_of_loads events h, traced, h]

theorem replay_concat_of_binds (events : List Event) (hload : event.loads = false)
    (h : event.binds marker = true) :
    replay marker (events ++ [event]) = replay marker events ++ [event.operation] := by
  simp [replay, fromLastLoad_concat_of_not_loads events hload, traced, h]

theorem replay_concat_of_not_traced (events : List Event) (hload : event.loads = false)
    (h : event.binds marker = false) :
    replay marker (events ++ [event]) = replay marker events := by
  simp [replay, fromLastLoad_concat_of_not_loads events hload, traced, hload, h]

end Event

/-! ## Replaying -/

namespace Session

variable [WordClass] {session : Session} {operation : Operation}

/-- What neither loads a program nor binds a variable changes nothing. -/
theorem perform_of_not_traced
    (h : (session.event operation).traced session.config.commentMarker = false) :
    (session.perform operation).1 = session := by
  rw [Event.traced, Bool.or_eq_false_iff] at h
  rcases perform_cases session operation with ⟨same, -⟩ | ⟨_, _, -, -, -, loads⟩ |
    ⟨_, _, _, _, -, -, -, -, -, binds⟩
  · exact same
  · simp [loads] at h
  · simp [binds] at h

/-- **Replaying what counts.** A session that was new at first is what the last loaded program
and the bindings since then make of a new session. -/
theorem after_eq_replay (config : Config) (operations : List Operation) :
    (new config).after operations =
      (new config).after
        (Event.replay config.commentMarker ((new config).events operations)) := by
  induction operations using List.reverseRecOn with
  | nil => rfl
  | append_singleton operations operation ih =>
    have hconfig : ((new config).after operations).config = config := config_after _ _
    rw [after_concat, events_concat]
    rcases perform_cases ((new config).after operations) operation with
      ⟨same, loads, binds⟩ | ⟨program, interpreter, rfl, hprogram, hnext, loads⟩ |
      ⟨line, name, expression, value, rfl, -, -, -, -, binds⟩
    · -- Nothing has changed, and nothing is replayed.
      rw [hconfig] at binds
      rw [same, Event.replay_concat_of_not_traced _ loads binds, ← ih]
    · -- What a program makes of a session depends on the settings and the tools only.
      rw [Event.replay_concat_of_loads _ loads, after_cons, after_nil, hnext]
      rw [hconfig, registry_after] at hprogram
      rw [hconfig]
      have hload : (new config).load program = _ := load_of_ok hprogram
      show _ = ((new config).load program).1
      rw [hload]
      rfl
    -- The line is replayed last, in the session that the others have made again.
    · rw [hconfig] at binds
      rw [Event.replay_concat_of_binds _ rfl binds, after_concat, ← ih]
      rfl

/-- Events that leave no trace can be left out of a run: the others come out alike. -/
theorem events_filter {keep : Event → Bool} (session : Session)
    (hkeep : ∀ event : Event, event.traced session.config.commentMarker = true →
      keep event = true) (operations : List Operation) :
    session.events (((session.events operations).filter keep).map Event.operation) =
      (session.events operations).filter keep := by
  induction operations generalizing session with
  | nil => rfl
  | cons operation operations ih =>
    have hconfig : (session.perform operation).1.config = session.config :=
      config_perform operation
    rw [events]
    cases hevent : keep (session.event operation) with
    | true =>
      rw [List.filter_cons_of_pos hevent, List.map_cons, events]
      exact congrArg _ (ih (session.perform operation).1 (by rwa [hconfig]))
    | false =>
      -- The event left out has changed nothing.
      have untraced : (session.event operation).traced session.config.commentMarker = false := by
        by_contra traced
        rw [hkeep _ (by simpa using traced)] at hevent
        contradiction
      rw [List.filter_cons_of_neg (by simp [hevent]), perform_of_not_traced untraced]
      exact ih session hkeep

/-! ## Variables and functions -/

/-- As long as no program is loaded, a bound variable keeps its value. -/
theorem get?_perform_of_not_loads (h : (session.event operation).loads = false) {name : String}
    {value : Value} (bound : session.interpreter.globals.get? name = some value) :
    (session.perform operation).1.interpreter.globals.get? name = some value := by
  rcases perform_cases session operation with ⟨same, -⟩ | ⟨_, _, -, -, -, loads⟩ |
    ⟨_, other, _, _, -, -, unbound, -, hnext, -⟩
  · rw [same, bound]
  · simp [loads] at h
  -- A name that is bound is not bound again, so another one has changed.
  · have differs : name ≠ other := by
      rintro rfl
      simp [bound] at unbound
    simp [hnext, differs, bound]

theorem get?_after_of_no_load {operations : List Operation}
    (h : ∀ event ∈ session.events operations, event.loads = false) {name : String} {value : Value}
    (bound : session.interpreter.globals.get? name = some value) :
    (session.after operations).interpreter.globals.get? name = some value := by
  induction operations generalizing session with
  | nil => exact bound
  | cons operation operations ih =>
    rw [events, List.forall_mem_cons] at h
    exact ih h.2 (get?_perform_of_not_loads h.1 bound)

/-- A line never changes the functions. -/
theorem definitions_enter (session : Session) (line : String) :
    (session.enter line).1.interpreter.definitions = session.interpreter.definitions := by
  rcases perform_cases session (.enter line) with ⟨same, -⟩ | ⟨_, _, h, -⟩ |
    ⟨_, _, _, _, -, -, -, -, hnext, -⟩
  · exact congrArg (·.interpreter.definitions) same
  · contradiction
  · exact congrArg (·.interpreter.definitions) hnext

/-! ## Any run of a new session -/

/-- **Failed and read-only operations leave no trace.**

After any run, a session is what the last loaded program and the bindings since then make of a
new session. Whatever failed or only evaluated an expression can be left out of the run, and
every other operation has the outcome that it had. Until a program is loaded, a bound name keeps
its value, and no line changes the functions. All of this holds although the evaluations share
one counter, because every operation leaves the counter at zero. -/
theorem leaves_no_trace (config : Config) (operations : List Operation) :
    let events := (new config).events operations
    let remains (event : Event) : Bool :=
      !event.outcome.failed && !event.onlyEvaluates config.commentMarker
    -- The state is that of the last loaded program and the bindings since then.
    (new config).after operations =
      (new config).after (Event.replay config.commentMarker events) ∧
    -- Without what failed or only evaluated, everything else comes out alike.
    (new config).events ((events.filter remains).map Event.operation) = events.filter remains ∧
    -- Between two programs, a bound name neither changes its value nor disappears.
    (∀ before between after, operations = before ++ between ++ after →
      (∀ event ∈ ((new config).after before).events between, event.loads = false) →
      ∀ name value, ((new config).after before).interpreter.globals.get? name = some value →
        ((new config).after (before ++ between)).interpreter.globals.get? name = some value) ∧
    -- No line changes the functions.
    (∀ before line after, operations = before ++ .enter line :: after →
      ((new config).after (before ++ [.enter line])).interpreter.definitions =
        ((new config).after before).interpreter.definitions) ∧
    -- With a counter, the run is the same, and the counter ends at zero.
    (∃ enough, ∀ fuel, enough ≤ fuel →
      (⟨new config, 0⟩ : Machine).run fuel operations =
        some (⟨(new config).after operations, 0⟩, events)) := by
  refine ⟨after_eq_replay config operations, ?_, ?_, ?_, ?_⟩
  · refine events_filter (new config) (fun event traced => ?_) operations
    obtain ⟨ok, more⟩ : event.outcome.failed = false ∧
        event.onlyEvaluates config.commentMarker = false := Event.not_failed_of_traced traced
    show (!event.outcome.failed && !event.onlyEvaluates config.commentMarker) = true
    rw [ok, more]
    rfl
  · intro before between after _ noLoad name value bound
    rw [after_append]
    exact get?_after_of_no_load noLoad bound
  · intro before line after _
    rw [after_concat]
    exact definitions_enter _ line
  -- Every operation starts from the zero that the one before it has left.
  · exact Filter.eventually_atTop.mp (Machine.eventually_run (new config) operations)

end Session

end Clausal
