import Clausal.Config.Reader
import Clausal.Session.Basic

/-!
# The console

A session that is held over lines of text. A line is a command if it starts with a colon and
is one of the known ones, and otherwise it is entered into the session. What goes wrong is
reported and the conversation goes on; only a program or settings that cannot be read when
they are needed end it early.

The console is a function from what it is given to what it writes. Reading and writing for
real is left to the program around it.
-/

namespace Clausal.Console

/-! ## What the console is given and what it writes -/

/-- The world around the console: the contents of files, or why a file cannot be read, and
the path of the file that holds the settings. -/
structure Host where
  readFile : String → Except String String
  configPath : Option String

/-- Text that is written to the two outputs. -/
structure Output where
  stdout : String := ""
  stderr : String := ""
  deriving DecidableEq, Repr

namespace Output

/-- One output after another. -/
def append (first second : Output) : Output :=
  ⟨first.stdout ++ second.stdout, first.stderr ++ second.stderr⟩

instance : Append Output := ⟨append⟩

/-- A line of results. -/
def line (text : String) : Output :=
  { stdout := text ++ "\n" }

/-- A line of complaints. -/
def complaint (text : String) : Output :=
  { stderr := text ++ "\n" }

end Output

/-- What the console could not do, and the reason it was given for that. -/
structure Failure where
  message : String
  cause : String
  deriving DecidableEq, Repr

/-- A failure on one line. -/
def Failure.line (failure : Failure) : String :=
  failure.message ++ ": " ++ failure.cause

/-- A whole conversation: how it ends and everything that is written. The cause of a conversation
that ends early is written last, in a paragraph of its own. -/
structure Transcript where
  code : Nat
  output : Output
  cause : Option String
  deriving DecidableEq, Repr

namespace Transcript

/-- A transcript with something written before it. -/
def after (output : Output) (transcript : Transcript) : Transcript :=
  { transcript with output := output ++ transcript.output }

/-- The transcript of a conversation that the user ends. -/
def finished (output : Output) : Transcript :=
  ⟨0, output, none⟩

/-- The transcript of a conversation that ends early. -/
def aborted (failure : Failure) : Transcript :=
  ⟨1, Output.complaint ("Error: " ++ failure.message), some failure.cause⟩

/-- Everything that is written, with the paragraph of the cause. -/
def outputWithCause (transcript : Transcript) : Output :=
  match transcript.cause with
  | none => transcript.output
  | some cause =>
    transcript.output ++ (Output.complaint "" ++ Output.complaint "Caused by:"
      ++ Output.complaint ("    " ++ cause))

end Transcript

/-! ## Commands -/

/-- What a line asks for. -/
inductive Command where
  /-- Replace all definitions with those in a file. -/
  | load (path : String)
  /-- End the conversation. -/
  | quit
  /-- Explain the commands. -/
  | help
  /-- Drop all definitions and read the settings anew. -/
  | clear
  /-- Enter the line into the session. -/
  | enter (line : String)
  deriving DecidableEq, Repr

/-- What comes after a word at the start of a text. -/
def afterWord? (word text : List Char) : Option (List Char) :=
  if word.isPrefixOf text then some (text.drop word.length) else none

/-- The command in a line, which is read without the blanks at its ends. A path is all that
follows `:load` and a space. -/
def Command.ofLine (line : String) : Command :=
  let text := Text.trim line.toList
  match afterWord? ":load ".toList text with
  | some path => .load (String.ofList (Text.trim path))
  | none =>
    let word := String.ofList text
    if word = ":quit" ∨ word = ":q" then .quit
    else if word = ":help" ∨ word = ":h" then .help
    else if word = ":clear" then .clear
    else .enter word

/-! ## Texts -/

/-- The greeting at the start of a conversation. -/
def greeting : Output :=
  Output.line "minihs 0.1.0 - type :help for commands"

/-- What is written before each line is read. -/
def prompt : Output :=
  { stdout := "minihs> " }

/-- A name with its description, the descriptions standing below each other. -/
def entry (name description : String) : String :=
  "  " ++ name ++ String.ofList (List.replicate (8 - name.length) ' ') ++ " " ++ description

/-- The lines that explain the commands and the builtins. -/
def helpLines : List String :=
  ["Commands:",
   "  :load <file>   replace all definitions with those in <file>",
   "  :clear         drop every definition and variable",
   "  :help          show this help",
   "  :quit          leave the REPL",
   "",
   "Anything else is evaluated:",
   "  factorial 5",
   "  map (*2) [1, 2, 3]",
   "  x = fold (+) 0 [1, 2, 3]",
   "",
   "Builtins:"]
    ++ HigherOrder.all.map (fun builtin => entry builtin.name builtin.description)
    ++ Primitive.all.map (fun primitive => entry primitive.name primitive.description)

/-- What is written after a program was loaded or has failed. -/
def loadOutput (path : String) : Except Error LoadReport → Output
  | .ok report =>
    Output.line ("Loaded " ++ path ++ ": " ++ toString report.functions ++ " function(s), "
      ++ toString report.clauses ++ " clause(s), " ++ toString report.globals
      ++ " variable(s)")
  | .error error => Output.complaint ("error loading " ++ path ++ ": " ++ error.message)

/-- What is written after a line was entered. An empty answer is not written. -/
def enterOutput : Except Error String → Output
  | .ok text => if text.isEmpty then {} else Output.line text
  | .error error => Output.complaint ("error: " ++ error.message)

/-! ## The conversation -/

variable [SettingsReader] [WordClass]

/-- The settings, or why they cannot be had. Without a path all settings are standard. -/
def Host.config (host : Host) : Except Failure Config :=
  match host.configPath with
  | none => .ok Config.standard
  | some path =>
    match host.readFile path with
    | .error reason => .error ⟨"failed to read config " ++ path, reason⟩
    | .ok text =>
      match SettingsReader.readSettings text with
      | .error reason => .error ⟨"invalid config " ++ path, reason⟩
      | .ok config => .ok config

/-- Loads the program in a file. Only a file that cannot be read is a failure here. -/
def loadFile (host : Host) (session : Session) (path : String) :
    Except Failure (Session × Output) :=
  match host.readFile path with
  | .error reason => .error ⟨"failed to read program " ++ path, reason⟩
  | .ok program =>
    let (next, outcome) := session.load program
    .ok (next, loadOutput path outcome)

/-- What a command leads to. -/
inductive Reply where
  /-- The conversation goes on. -/
  | next (session : Session) (output : Output)
  /-- The conversation is over. -/
  | quit
  /-- The conversation ends early, since something necessary has failed. -/
  | abort (failure : Failure)

/-- What a command does to a session. -/
def reply (host : Host) (session : Session) : Command → Reply
  | .load path =>
    match loadFile host session path with
    | .ok (next, output) => .next next output
    | .error failure => .next session (Output.complaint ("error: " ++ failure.line))
  | .quit => .quit
  | .help => .next session (Output.line ("\n".intercalate helpLines))
  | .clear =>
    match host.config with
    | .ok config => .next (Session.new config) (Output.line "Definitions cleared")
    | .error failure => .abort failure
  | .enter line =>
    let (next, outcome) := session.enter line
    .next next (enterOutput outcome)

/-- The conversation over the given lines. Before each of them, and before the end of the
input is noticed, stands a prompt. -/
def converse (host : Host) (session : Session) : List String → Transcript
  | [] => .finished prompt
  | line :: lines =>
    match reply host session (Command.ofLine line) with
    | .next next output => (converse host next lines).after (prompt ++ output)
    | .quit => .finished prompt
    | .abort failure => (Transcript.aborted failure).after prompt

/-- How a conversation starts: with the settings read, and the program loaded if one is
given. -/
def start (host : Host) (program : Option String) : Except Failure (Session × Output) := do
  let session := Session.new (← host.config)
  match program with
  | none => return (session, greeting)
  | some path =>
    let (loaded, output) ← loadFile host session path
    return (loaded, output ++ greeting)

/-- The whole conversation over the given input. -/
def run (host : Host) (program : Option String) (input : String) : Transcript :=
  match start host program with
  | .ok (session, output) => (converse host session (Text.lines input)).after output
  | .error failure => Transcript.aborted failure

end Clausal.Console
