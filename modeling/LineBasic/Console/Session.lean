import LineBasic.Console.Command
import LineBasic.Host
import LineBasic.Text.Lines
import LineBasic.Text.Quoted

/-!
# Sessions at the console

A session runs a program, shows where and why it stops, and answers commands until the program goes
on. It ends with the program, with the input, or on request. What a session does between two inputs
is a function, so a session with a given input is one too.

## Main definitions

* `Session`: a program at the console.
* `Activity`: what a session is about to do.
* `Session.report`: what it shows after a run; `Session.answer`: what it answers to a line.
* `Session.play`: a whole session with a given input.
-/

namespace LineBasic

/-- A program at the console. -/
structure Session where
  host : Host
  /-- Whether the commands have been listed yet. -/
  helpShown : Bool

/-- What a session is about to do. -/
inductive Activity where
  | run
  /-- Runs on after a wait in milliseconds. -/
  | wait (delay : Nat)
  /-- Waits for a line of input. -/
  | prompt
  | done
deriving DecidableEq, Repr

namespace Session

/-- A session with a program that has been started. -/
def ofHost (host : Host) : Session := ⟨host, false⟩

/-- The list of commands. -/
def helpText : String :=
  "Commands: (c)ontinue, (s)tep into, (n)ext/step over, (o)ut, (b) <line> [if <cond>], " ++
  "(d)elete <line>, (t)oggle <line>, (bl) list, (bt) backtrace, vars, speed <n>, eval <expr>, " ++
  "exec <stmt>, (q)uit"

/-- A text with a line end. -/
def lineOf (s : String) : String := s ++ "\n"

/-- A value as the console shows it: texts between quotes. -/
def showValue : Value → String
  | .text s => Text.quoted s
  | v => v.toText

/-- The message of a snippet that failed. -/
def showEvalError (e : EvalError) : String := lineOf ("❌ " ++ e.message)

/-! ## After a run -/

/-- Where and why a program stopped: the error or the line, then the text of the line. -/
def showStop (h : Host) (line : LineId) : String :=
  let head := match h.debugger.lastError with
    | some e =>
        "\n💥 Error " ++ toString e.code ++ " at line " ++ e.line.toText ++ ": " ++ e.message
    | none => "\n🔍 Stopped at line " ++ line.toText
  let source := (line.number?.bind h.program.indexOf?).bind h.program.get?
  lineOf head ++ match source with
    | some l => lineOf ("    " ++ String.ofList (Text.trimEnd l.text.toList))
    | none => ""

/-- The message of a fault that ended the program. -/
def showFailure (f : Fault) : String :=
  lineOf ("❌ " ++ f.message ++ match f.line with
    | some line => " in " ++ line.toText
    | none => "")

/-- What a session shows after a run, and does next. -/
def report (s : Session) (outcome : RunOutcome) : String × Activity × Session :=
  let (printed, host) := s.host.takeOutput
  let s := { s with host := host }
  match outcome with
  | .finished => (printed ++ lineOf "✅ Program finished", .done, s)
  | .failed f => (printed ++ showFailure f, .done, s)
  | .stopped _ .throttle delay => (printed, .wait delay, s)
  | .stopped line .pause _ =>
      let help := if s.helpShown then "" else lineOf helpText
      (printed ++ showStop host line ++ help, .prompt, { s with helpShown := true })

/-! ## Commands -/

/-- A breakpoint in the list of breakpoints. -/
def showBreakpoint (bp : Breakpoint) : String :=
  let condition := match bp.condition with
    | some c => " if " ++ c
    | none => ""
  let status := if bp.enabled then "" else " (disabled)"
  lineOf ("  #" ++ Nat.repr bp.id ++ " line " ++ Nat.repr bp.line ++ condition ++ status ++
    " hits=" ++ Nat.repr bp.hits)

/-- The frames of a call stack, numbered from the current line on. -/
def showFrames (number : Nat) : List StackFrame → String
  | [] => ""
  | frame :: rest =>
      lineOf ("  #" ++ Nat.repr number ++ ": line " ++ frame.line.toText ++ " (depth " ++
        Nat.repr frame.depth ++ ")") ++ showFrames (number + 1) rest

/-- A call stack. -/
def showStack (frames : List StackFrame) : String :=
  lineOf ("=== Call Stack (" ++ Nat.repr frames.length ++ " frames) ===") ++ showFrames 0 frames

/-- Texts one after the other, or the text for none of them. -/
def showAll {α : Type} (none : String) (item : α → String) (all : List α) : String :=
  if all.isEmpty then lineOf none else String.join (all.map item)

/-- A variable in the list of variables. -/
def showVariable (entry : String × Value) : String :=
  lineOf ("  " ++ entry.1 ++ "=" ++ showValue entry.2)

/-- Runs a statement, and shows what it prints and why it failed. `explain` gives the error to show
for a statement that is not refused. -/
def showExec (s : Session) (statement : String) (explain : EvalError → EvalError) :
    String × Session :=
  let (result, d) := s.host.debugger.exec statement
  let (printed, host) := (s.host.withDebugger d).takeOutput
  let message := match result with
    | .ok () => ""
    | .error .notAllowed => showEvalError .notAllowed
    | .error e => showEvalError (explain e)
  (printed ++ message, { s with host := host })

/-- The value of an expression; `otherwise` goes on where there is none. -/
def showEval (s : Session) (expression : String)
    (otherwise : Session → EvalError → String × Session) : String × Session :=
  let (result, d) := s.host.debugger.eval expression
  let s := { s with host := s.host.withDebugger d }
  match result with
  | .ok v => (lineOf (showValue v), s)
  | .error e => otherwise s e

/-- What a command shows, and whether it lets the program run or ends the session. -/
def handle (s : Session) (command : Command) : String × Activity × Session :=
  let d := s.host.debugger
  let withDebugger (d : Debugger Machine) : Session := { s with host := s.host.withDebugger d }
  let stay (shown : String × Session) := (shown.1, Activity.prompt, shown.2)
  match command with
  | .continue => ("", .run, withDebugger d.resume)
  | .stepInto | .empty => ("", .run, withDebugger (d.beginStep .intoCalls))
  | .stepOver => ("", .run, withDebugger (d.beginStep .overCalls))
  | .stepOut => ("", .run, withDebugger (d.beginStep .outOfCall))
  | .quit => ("", .done, s)
  | .pause => (lineOf "Already paused", .prompt, s)
  | .break line condition =>
      let (bp, d) := d.addBreakpoint line condition
      (lineOf ("Breakpoint " ++ Nat.repr bp.id ++ " at line " ++ Nat.repr bp.line), .prompt,
        withDebugger d)
  | .delete line =>
      let (bp, d) := d.removeBreakpoint line
      (lineOf (match bp with
        | some _ => "Breakpoint at line " ++ Nat.repr line ++ " removed"
        | none => "No breakpoint at line " ++ Nat.repr line), .prompt, withDebugger d)
  | .toggle line =>
      let (bp, d) := d.toggleBreakpoint line
      let status := if bp.enabled then "enabled" else "disabled"
      (lineOf ("Breakpoint at line " ++ Nat.repr line ++ " " ++ status), .prompt, withDebugger d)
  | .list => (showAll "No breakpoints" showBreakpoint d.breakpoints.toList, .prompt, s)
  | .backtrace => (showStack d.stack, .prompt, s)
  | .vars =>
      (showAll "<no variables>" showVariable (Debuggee.vars d.runtime).toList, .prompt, s)
  | .speed speed => (lineOf ("Speed " ++ Nat.repr speed), .prompt, withDebugger (d.setSpeed speed))
  | .eval expression => stay (s.showEval expression fun s e => (showEvalError e, s))
  | .exec statement => stay (s.showExec statement id)
  | .input text => stay (s.showEval text fun s e => s.showExec text fun _ => e)
  | .help => (lineOf helpText, .prompt, s)

/-- What a session answers to a line, and does next. A program that is no longer paused runs. -/
def answer (s : Session) (input : String) : String × Activity × Session :=
  match Command.parse input with
  | .error e => (lineOf ("❓ " ++ e.message), .prompt, s)
  | .ok command =>
      match s.handle command with
      | (shown, .prompt, s) =>
          (shown, if s.host.debugger.state = .paused then .prompt else .run, s)
      | next => next

/-! ## Whole sessions -/

/-- What the prompt looks like. -/
def promptText : String := "> "

/--
A session from an activity on, with the lines of its input: what it shows behind `shown`, and the
program at its end. None if that takes more than `fuel` activities, or a run more steps.
-/
def playFrom : (fuel : Nat) → (shown : String) → Activity → Session → List String →
    Option (String × Host)
  | 0, _, _, _, _ => none
  | fuel + 1, shown, activity, s, input =>
      match activity with
      | .done => some (shown, s.host)
      | .run | .wait _ =>
          match s.host.run fuel with
          | none => none
          | some (host, outcome) =>
              let (text, next, s) := report { s with host := host } outcome
              playFrom fuel (shown ++ text) next s input
      | .prompt =>
          match input with
          | [] => some (shown ++ promptText, s.host)
          | line :: rest =>
              let (text, next, s) := s.answer line
              playFrom fuel (shown ++ promptText ++ text) next s rest

/-- A whole session with a program that has been started. -/
def play (fuel : Nat) (host : Host) (input : String) : Option (String × Host) :=
  playFrom fuel "" .run (ofHost host) ((Text.lines input.toList).map String.ofList)

end Session

end LineBasic
