import Clausal.Console
import Clausal.Proofs.Session.Run
import Clausal.Proofs.Text.Lines

/-!
# Conversations with failing lines

A conversation is a sequence of exchanges: a line is read, and something is written for it. A line
for which a complaint is written has done nothing else, neither to the session nor to the results.
So it can be left out, and all that is missing is its prompt and its complaint.

Main statements:
* `reply_complaint`: a command that complains leaves the session as it is;
* `converse_eraseIdx`: a line that fails can be left out of a conversation;
* `converse_append_of_quit`: what follows the end of a conversation is not read;
* `failing_line_leaves_no_trace`: all of this for the console on any input.
-/

namespace Clausal.Console

/-! ## Output -/

namespace Output

variable (first second third : Output)

@[simp]
theorem stdout_append : (first ++ second).stdout = first.stdout ++ second.stdout := rfl

@[simp]
theorem stderr_append : (first ++ second).stderr = first.stderr ++ second.stderr := rfl

@[ext]
theorem ext {first second : Output} (hstdout : first.stdout = second.stdout)
    (hstderr : first.stderr = second.stderr) : first = second := by
  cases first
  cases second
  cases hstdout
  cases hstderr
  rfl

theorem append_assoc : first ++ second ++ third = first ++ (second ++ third) := by
  ext1 <;> simp [String.append_assoc]

@[simp]
theorem empty_append : ({} : Output) ++ first = first := by
  ext1 <;> simp

end Output

theorem stderr_prompt : prompt.stderr = "" := rfl

theorem Transcript.after_after (first second : Output) (transcript : Transcript) :
    (transcript.after second).after first = transcript.after (first ++ second) := by
  simp only [Transcript.after, Output.append_assoc]

/-! ## Exchanges -/

/-- A line that was answered, with what was written for it after its prompt. -/
structure Exchange where
  line : String
  output : Output
  deriving DecidableEq, Repr

/-- The lines that are answered in a conversation, up to the one that ends it. -/
def exchanges [SettingsReader] [WordClass] (host : Host) (session : Session) :
    List String → List Exchange
  | [] => []
  | line :: lines =>
    match reply host session (Command.ofLine line) with
    | .next next output => ⟨line, output⟩ :: exchanges host next lines
    | .quit | .abort _ => []

/-- What is written in the course of some exchanges, with the prompt before each line. -/
def written : List Exchange → Output
  | [] => {}
  | exchange :: others => prompt ++ exchange.output ++ written others

section Exchanges

variable [SettingsReader] [WordClass] {host : Host} {session next : Session} {line : String}
  {lines : List String} {output : Output}

theorem exchanges_of_next (h : reply host session (Command.ofLine line) = .next next output) :
    exchanges host session (line :: lines) = ⟨line, output⟩ :: exchanges host next lines := by
  simp only [exchanges, h]

theorem converse_of_next (h : reply host session (Command.ofLine line) = .next next output) :
    converse host session (line :: lines) =
      (converse host next lines).after (prompt ++ output) := by
  simp only [converse, h]

/-- Only the command to end the conversation ends it without an error. -/
theorem reply_eq_quit_iff {command : Command} :
    reply host session command = .quit ↔ command = .quit := by
  refine ⟨?_, ?_⟩
  · intro h
    -- Every other command either goes on or aborts.
    cases command with
    | quit => rfl
    | load path =>
      simp only [reply] at h
      split at h <;> contradiction
    | clear =>
      simp only [reply] at h
      split at h <;> contradiction
    | help | enter => simp [reply] at h
  · rintro rfl
    rfl

/-- A line that is answered does not end the conversation. -/
theorem ne_quit_of_next {command : Command} (h : reply host session command = .next next output) :
    command ≠ .quit := by
  rintro rfl
  contradiction

/-- A conversation that does not end early answers every line before the end, and what is written
for these lines is all that is written before the last prompt. -/
theorem converse_eq_written (finished : (converse host session lines).code = 0) :
    converse host session lines = .finished (written (exchanges host session lines) ++ prompt) ∧
      (exchanges host session lines).map Exchange.line =
        lines.takeWhile fun line => Command.ofLine line ≠ .quit := by
  induction lines generalizing session with
  | nil => exact ⟨rfl, rfl⟩
  | cons line lines ih =>
    cases h : reply host session (Command.ofLine line) with
    | next next output =>
      rw [converse_of_next h] at finished ⊢
      obtain ⟨hconverse, hlines⟩ := ih finished
      rw [exchanges_of_next h, hconverse]
      refine ⟨?_, ?_⟩
      · simp only [Transcript.after, Transcript.finished, written, Output.append_assoc]
      · rw [List.map_cons, hlines, List.takeWhile_cons_of_pos (by simpa using ne_quit_of_next h)]
    | quit =>
      have quit := reply_eq_quit_iff.mp h
      refine ⟨by simp [converse, exchanges, h, written], ?_⟩
      rw [List.takeWhile_cons_of_neg (by simpa using quit)]
      simp [exchanges, h]
    -- An aborted conversation has another exit code.
    | abort failure => simp [converse, h, Transcript.after, Transcript.aborted] at finished

/-! ## Lines that fail -/

omit [SettingsReader] in
/-- A loaded program is reported, and a program that fails leaves the session as it is. -/
theorem loadFile_complaint {path : String}
    (h : loadFile host session path = .ok (next, output)) (complains : output.stderr ≠ "") :
    next = session ∧ output.stdout = "" := by
  unfold loadFile at h
  -- Of a file that cannot be read, nothing is returned but the failure.
  cases hfile : host.readFile path with
  | error reason => simp [hfile] at h
  | ok program =>
    cases hprogram : Interpreter.ofProgram session.interpreter.registry
        session.config.commentMarker session.config.maxDepth program with
    | ok interpreter =>
      simp only [hfile, Session.load_of_ok hprogram, Except.ok.injEq, Prod.mk.injEq] at h
      obtain ⟨-, rfl⟩ := h
      exact absurd rfl complains
    | error error =>
      simp only [hfile, Session.load_of_error hprogram, Except.ok.injEq, Prod.mk.injEq] at h
      obtain ⟨rfl, rfl⟩ := h
      exact ⟨rfl, rfl⟩

omit [SettingsReader] in
/-- An answered line is not complained about, and a line that fails leaves the session as it is. -/
theorem enter_complaint (complains : (enterOutput (session.enter line).2).stderr ≠ "") :
    (session.enter line).1 = session ∧ (enterOutput (session.enter line).2).stdout = "" := by
  cases hanswer : session.answer line with
  | ok answered =>
    obtain ⟨next, text⟩ := answered
    rw [Session.enter_of_ok hanswer, enterOutput] at complains
    split at complains <;> exact absurd rfl complains
  | error error =>
    rw [Session.enter_of_error hanswer]
    exact ⟨rfl, rfl⟩

/-- **A command that complains leaves the session as it is and writes nothing but the
complaint.** -/
theorem reply_complaint {command : Command} (h : reply host session command = .next next output)
    (complains : output.stderr ≠ "") : next = session ∧ output.stdout = "" := by
  cases command with
  | load path =>
    simp only [reply] at h
    split at h
    · rename_i loaded
      cases h
      exact loadFile_complaint loaded complains
    · -- A file that cannot be read is complained about, and the session is kept.
      cases h
      exact ⟨rfl, rfl⟩
  | quit => contradiction
  | help =>
    cases h
    exact absurd rfl complains
  | clear =>
    simp only [reply] at h
    split at h
    · cases h
      exact absurd rfl complains
    · contradiction
  | enter line =>
    cases h
    exact enter_complaint complains

/-- A line that fails can be left out of a conversation. What is missing then is the prompt of this
line and its complaint. -/
theorem converse_eraseIdx {index : Nat} {exchange : Exchange}
    (answered : (exchanges host session lines)[index]? = some exchange)
    (complains : exchange.output.stderr ≠ "") :
    exchange.output.stdout = "" ∧
      exchanges host session (lines.eraseIdx index) =
        (exchanges host session lines).eraseIdx index ∧
      ∃ rest : Transcript,
        converse host session lines =
          rest.after (written ((exchanges host session lines).take index) ++
            (prompt ++ exchange.output)) ∧
        converse host session (lines.eraseIdx index) =
          rest.after (written ((exchanges host session lines).take index)) := by
  induction lines generalizing session index with
  | nil => simp [exchanges] at answered
  | cons line lines ih =>
    cases h : reply host session (Command.ofLine line) with
    | quit => simp [exchanges, h] at answered
    | abort failure => simp [exchanges, h] at answered
    | next next output =>
      rw [exchanges_of_next h] at answered ⊢
      rw [converse_of_next h]
      cases index with
      | zero =>
        -- The line changed nothing, so the next one finds the same session without it.
        obtain rfl : ⟨line, output⟩ = exchange := by simpa using answered
        obtain ⟨rfl, silent⟩ := reply_complaint h complains
        refine ⟨silent, rfl, converse host next lines, ?_, ?_⟩
        · simp [written]
        · simp [written, Transcript.after]
      -- The line is answered as before, and the one that fails stands in what follows.
      | succ index =>
        rw [List.getElem?_cons_succ] at answered
        obtain ⟨silent, herased, rest, hwhole, hshort⟩ := ih answered
        rw [List.eraseIdx_cons_succ, List.eraseIdx_cons_succ, List.take_succ_cons,
          exchanges_of_next h, converse_of_next h, herased, hwhole, hshort]
        refine ⟨silent, rfl, rest, ?_, ?_⟩
        · rw [Transcript.after_after, written, Output.append_assoc (prompt ++ output)]
        · rw [Transcript.after_after, written]

/-- What follows the end of a conversation is not read. -/
theorem converse_append_of_quit (quits : ∃ line ∈ lines, Command.ofLine line = .quit)
    (rest : List String) : converse host session (lines ++ rest) = converse host session lines := by
  induction lines generalizing session with
  | nil => simp at quits
  | cons line lines ih =>
    rw [List.cons_append]
    cases h : reply host session (Command.ofLine line) with
    | quit => simp only [converse, h]
    | abort failure => simp only [converse, h]
    | next next output =>
      -- The line is answered, so it is not the one that ends the conversation.
      have later : ∃ line ∈ lines, Command.ofLine line = .quit := by
        obtain ⟨last, mem, quit⟩ := quits
        rcases List.mem_cons.mp mem with rfl | mem
        · exact absurd quit (ne_quit_of_next h)
        · exact ⟨last, mem, quit⟩
      rw [converse_of_next h, converse_of_next h, ih later]

end Exchanges

/-! ## The console -/

/-- What is written before the first prompt. -/
def opening [SettingsReader] [WordClass] (host : Host) (program : Option String) : Output :=
  match start host program with
  | .ok (_, output) => output
  | .error _ => {}

/-- The lines of the input that are answered, up to the one that ends the conversation. -/
def answered [SettingsReader] [WordClass] (host : Host) (program : Option String)
    (input : String) : List Exchange :=
  match start host program with
  | .ok (session, _) => exchanges host session (Text.lines input)
  | .error _ => []

section Run

variable [SettingsReader] [WordClass] {host : Host} {program : Option String}
  {session : Session} {output : Output}

theorem run_of_start (h : start host program = .ok (session, output)) (input : String) :
    run host program input = (converse host session (Text.lines input)).after output := by
  simp only [run, h]

theorem answered_of_start (h : start host program = .ok (session, output)) (input : String) :
    answered host program input = exchanges host session (Text.lines input) := by
  simp only [answered, h]

theorem opening_of_start (h : start host program = .ok (session, output)) :
    opening host program = output := by
  simp only [opening, h]

end Run

/-- **A line that fails has no lasting effect.**

A conversation that does not end early answers all lines before the one that ends it, and what is
written is the opening, the answers with a prompt before each, and one more prompt. If a complaint
is written for one of these lines, then the conversation over the input without this line ends
alike. Its other lines are answered as before, and what is written is the same but for the prompt
of this line on the one output and its complaint on the other. Of the input behind a line that ends
the conversation nothing is read. Nothing is assumed of the reader of settings, nor of the class of
word characters. -/
theorem failing_line_leaves_no_trace [SettingsReader] [WordClass] (host : Host)
    (program : Option String) (input : String) :
    -- What is written is the opening, the exchanges and the last prompt.
    ((run host program input).code = 0 →
      run host program input =
        ⟨0, opening host program ++ written (answered host program input) ++ prompt, none⟩ ∧
      (answered host program input).map Exchange.line =
        (Text.lines input).takeWhile fun line => Command.ofLine line ≠ .quit) ∧
    -- Without a line that fails, the prompt and the complaint of this line are missing.
    (∀ index exchange, (answered host program input)[index]? = some exchange →
      exchange.output.stderr ≠ "" →
      let shorter := Text.withoutLine index input
      let before := opening host program ++ written ((answered host program input).take index)
      answered host program shorter = (answered host program input).eraseIdx index ∧
      ∃ (code : Nat) (after : Output) (cause : Option String),
        run host program input =
          ⟨code, ⟨before.stdout ++ prompt.stdout ++ after.stdout,
            before.stderr ++ exchange.output.stderr ++ after.stderr⟩, cause⟩ ∧
        run host program shorter =
          ⟨code, ⟨before.stdout ++ after.stdout, before.stderr ++ after.stderr⟩, cause⟩) ∧
    -- What follows the line that ends the conversation changes nothing.
    (∀ rest, input.toList.getLast? = some '\n' →
      (∃ line ∈ Text.lines input, Command.ofLine line = .quit) →
      run host program (input ++ rest) = run host program input) := by
  cases hstart : start host program with
  | error failure =>
    -- Without a session no line is read, and the run has failed.
    refine ⟨fun finished => ?_, fun index exchange read => ?_, fun rest _ _ => ?_⟩
    · simp [run, hstart, Transcript.aborted] at finished
    · simp [answered, hstart] at read
    · simp only [run, hstart]
  | ok started =>
    obtain ⟨session, output⟩ := started
    simp only [run_of_start hstart, answered_of_start hstart, opening_of_start hstart]
    refine ⟨?whole, ?shorter, ?quit⟩
    case whole =>
      intro finished
      obtain ⟨hconverse, hlines⟩ := converse_eq_written finished
      refine ⟨?_, hlines⟩
      rw [hconverse, Output.append_assoc]
      rfl
    case shorter =>
      intro index exchange read complains
      -- Both runs write the same before the line and behind it.
      obtain ⟨silent, herased, rest, hwhole, hshort⟩ := converse_eraseIdx read complains
      rw [Text.lines_withoutLine]
      refine ⟨herased, rest.code, rest.output, rest.cause, ?_, ?_⟩
      · rw [hwhole]
        refine congrArg (Transcript.mk rest.code · rest.cause) (Output.ext ?_ ?_)
        · simp [Transcript.after, silent, String.append_assoc]
        · simp [Transcript.after, stderr_prompt, String.append_assoc]
      · rw [hshort]
        refine congrArg (Transcript.mk rest.code · rest.cause) (Output.ext ?_ ?_)
        · simp [Transcript.after, String.append_assoc]
        · simp [Transcript.after, String.append_assoc]
    case quit =>
      intro rest ended quits
      rw [Text.lines_append ended, converse_append_of_quit quits]

/-- A host with one file, which is no program, since it binds a variable twice. -/
def twiceHost : Host where
  readFile path :=
    if path = "twice" then .ok "x = True\nx = False" else .error "No such file"
  configPath := none

/-- A conversation in which the second line fails. The variable is bound in the session too. -/
def twiceInput : String :=
  "x = [1]\n:load twice\nx\n:q\n"

/-- What is written when the file is loaded. -/
def twiceExchange : Exchange :=
  ⟨":load twice",
    Output.complaint "error loading twice: Cannot reassign immutable variable: x"⟩

/-- A program that fails midway leaves the variable of the session as it was, and what follows the
end of the conversation is not read. -/
theorem failing_line_leaves_no_trace_twice :
    (answered twiceHost none twiceInput)[1]? = some twiceExchange ∧
    twiceExchange.output.stderr ≠ "" ∧
    (∃ (code : Nat) (after : Output) (cause : Option String),
      run twiceHost none twiceInput =
        ⟨code, ⟨"minihs 0.1.0 - type :help for commands\nminihs> x = [1]\n" ++ "minihs> " ++
            after.stdout, "" ++ twiceExchange.output.stderr ++ after.stderr⟩, cause⟩ ∧
      run twiceHost none "x = [1]\nx\n:q\n" =
        ⟨code, ⟨"minihs 0.1.0 - type :help for commands\nminihs> x = [1]\n" ++ after.stdout,
          "" ++ after.stderr⟩, cause⟩) ∧
    twiceInput.toList.getLast? = some '\n' ∧
    (∃ line ∈ Text.lines twiceInput, Command.ofLine line = .quit) ∧
    ∀ rest, run twiceHost none (twiceInput ++ rest) = run twiceHost none twiceInput := by
  have read : (answered twiceHost none twiceInput)[1]? = some twiceExchange := by decide +kernel
  have complains : twiceExchange.output.stderr ≠ "" := by decide +kernel
  have shorter : Text.withoutLine 1 twiceInput = "x = [1]\nx\n:q\n" := by decide +kernel
  have before : opening twiceHost none ++ written ((answered twiceHost none twiceInput).take 1) =
      ⟨"minihs 0.1.0 - type :help for commands\nminihs> x = [1]\n", ""⟩ := by decide +kernel
  have ended : twiceInput.toList.getLast? = some '\n' := by decide +kernel
  have quits : ∃ line ∈ Text.lines twiceInput, Command.ofLine line = .quit := by decide +kernel
  -- The second and the third part, each at its own premises
  obtain ⟨-, deleted, quit⟩ := failing_line_leaves_no_trace twiceHost none twiceInput
  obtain ⟨-, outputs⟩ := deleted 1 twiceExchange read complains
  rw [shorter, before] at outputs
  exact ⟨read, complains, outputs, ended, quits, fun rest => quit rest ended quits⟩

end Clausal.Console
