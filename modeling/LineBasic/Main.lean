import LineBasic.CommandLine

/-!
# The program

Reads the command line and the files it names, and runs a session on the terminal.
-/

namespace LineBasic

/-- The system's number of an error, which may arrive negated. -/
def systemNumber (code : UInt32) : UInt32 := min code (0 - code)

/-- The error of a file in the words of this library. -/
def fileErrorOf : IO.Error → FileError
  | .noFileOrDirectory .. => .notFound
  | .inappropriateType _ code _ =>
      if systemNumber code = 20 then .notDirectory else .isDirectory
  | .invalidArgument _ code _ =>
      if systemNumber code = 36 then .nameTooLong else .nullInName
  | e => .other (toString e)

/-- The text of a file. -/
def readTextFile (file : String) : IO (Except FileError String) := do
  try
    let content ← IO.FS.readBinFile file
    return match String.fromUTF8? content with
      | some text => .ok text
      | none => .error .invalidText
  catch e => return .error (fileErrorOf e)

/-- Gives a file a text. -/
def writeTextFile (file text : String) : IO (Except FileError Unit) := do
  try
    IO.FS.writeFile file text
    return .ok ()
  catch e => return .error (fileErrorOf e)

/-- Runs a program up to its next stop or its end. -/
partial def runHost (h : Host) : IO (Host × RunOutcome) := do
  if h.finished then return (h, .finished)
  match h.tick with
  | (h, some outcome) => return (h, outcome)
  | (h, none) => runHost h

/-- Runs a session on the terminal, and gives the program at its end. -/
partial def runSession (activity : Activity) (s : Session) : IO Host := do
  let output ← IO.getStdout
  match activity with
  | .done => return s.host
  | .wait delay =>
      IO.sleep delay.toUInt32
      runSession .run s
  | .run =>
      let (host, outcome) ← runHost s.host
      let (text, next, s) := Session.report { s with host := host } outcome
      output.putStr text
      output.flush
      runSession next s
  | .prompt =>
      output.putStr Session.promptText
      output.flush
      let line ← (← IO.getStdin).getLine
      if line.isEmpty then return s.host
      let (text, next, s) := s.answer line
      output.putStr text
      output.flush
      runSession next s

/-- Shows an error, and gives the exit code of a session that failed. -/
def failWith (message : String) : IO UInt32 := do
  IO.eprintln ("❌ " ++ message)
  return 1

/-- Runs the session that arguments ask for. -/
def runArguments (a : Arguments) : IO UInt32 := do
  match ← (Launch.prepare readTextFile a).run with
  | .error e => failWith e.message
  | .ok launch =>
      let host ← runSession .run (Session.ofHost launch.host)
      match launch.saveTo with
      | none => return 0
      | some file =>
          match ← writeTextFile file (Launch.savedText host) with
          | .ok () => return 0
          | .error e => failWith (DocumentError.file e).message

end LineBasic

/-- The program: arguments that are refused end it with exit code 2. -/
def main (args : List String) : IO UInt32 := do
  match LineBasic.Arguments.parse args with
  | some a => LineBasic.runArguments a
  | none =>
      IO.eprintln ("usage: <program> [--speed <0-100>] [--break-on-error <true|false>] " ++
        "[--breakpoints <file>] [--config <file>] [--stop-on-entry]")
      return 2
