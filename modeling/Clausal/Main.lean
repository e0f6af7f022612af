import Clausal.Console

/-!
# The program

The console on the real world: files are read from the file system, lines from standard
input, and the path of the settings comes from the environment. What a line does is decided
by the console alone; the one file that a command needs is read before the console is asked.
Names of definitions are runs of the word characters of Unicode 16.0, and settings are read as
JSON.
-/

namespace Clausal.Main

/-- A reason in words and as a number. Numbers come with either sign, and the words with or
without a capital. -/
def describe (details : String) (code : UInt32) : String :=
  let number := if code < 0x80000000 then code else 0 - code
  details.capitalize ++ " (os error " ++ toString number ++ ")"

/-- Why a file cannot be read. -/
def reason (error : IO.Error) : String :=
  match error with
  | .noFileOrDirectory _ code details => describe details code
  | .inappropriateType _ code details => describe details code
  | .permissionDenied _ code details => describe details code
  | .resourceExhausted _ code details => describe details code
  | .invalidArgument _ code details => describe details code
  | other => toString other

/-- What is read, or why it cannot be read. -/
def attempt (read : IO String) : IO (Except String String) := do
  try
    return .ok (← read)
  catch error =>
    return .error (reason error)

/-- The contents of a file, or why it cannot be read. -/
def readFile (path : String) : IO (Except String String) :=
  attempt (IO.FS.readFile path)

/-- The world as far as one file goes: whichever file is asked for is the one at `path`. -/
def hostFor (configPath path : Option String) : IO Console.Host := do
  match path with
  | none => return ⟨fun _ => .error "", configPath⟩
  | some path =>
    let contents ← readFile path
    return ⟨fun _ => contents, configPath⟩

/-- Writes to the two outputs. -/
def write (output : Console.Output) : IO Unit := do
  let stdout ← IO.getStdout
  stdout.putStr output.stdout
  stdout.flush
  (← IO.getStderr).putStr output.stderr

/-- The file that a command needs. -/
def fileOf (configPath : Option String) : Console.Command → Option String
  | .load path => some path
  | .clear => configPath
  | _ => none

/-- Ends early, with the cause written out. -/
def abort (failure : Console.Failure) : IO UInt32 := do
  write (Console.Transcript.aborted failure).outputWithCause
  return 1

/-- Answers lines until there are no more. -/
partial def converse (configPath : Option String) (session : Session) : IO UInt32 := do
  write Console.prompt
  match ← attempt (← IO.getStdin).getLine with
  | .error cause => abort ⟨"failed to read input", cause⟩
  | .ok line =>
    if line.isEmpty then return 0
    let command := Console.Command.ofLine line
    let host ← hostFor configPath (fileOf configPath command)
    match Console.reply host session command with
    | .next next output =>
      write output
      converse configPath next
    | .quit => return 0
    | .abort failure => abort failure

/-- Loads the settings and the program. Two files may be needed, so the console is asked with
both of them at hand. -/
def start (configPath program : Option String) :
    IO (Except Console.Failure (Session × Console.Output)) := do
  let settings ← match configPath with
    | none => pure (.error "")
    | some path => readFile path
  match Console.Host.config ⟨fun _ => settings, configPath⟩ with
  | .error failure => return .error failure
  | .ok _ =>
    let source ← match program with
      | none => pure (.error "")
      | some path => readFile path
    let host : Console.Host :=
      ⟨fun path => if some path = program then source else settings, configPath⟩
    return Console.start host program

end Clausal.Main

/-- Holds a conversation over standard input. The first argument is a program to load before
it starts. -/
def main (arguments : List String) : IO UInt32 := do
  let configPath ← IO.getEnv "MINIHS_CONFIG"
  match ← Clausal.Main.start configPath arguments.head? with
  | .error failure => Clausal.Main.abort failure
  | .ok (session, output) =>
    Clausal.Main.write output
    Clausal.Main.converse configPath session
