import LineBasic.Debugger
import LineBasic.Process

/-!
# A program under the debugger

The host runs a program and lets the debugger look at every line before it runs. When the debugger
asks for a stop, the program stops before that line, and later goes on from there.

## Main definitions

* `Machine`: the running program as the debugger sees it.
* `Host`: the program, the debugger, and whether a run is over.
* `Host.tick`: one step of a run; `Host.run`: a run up to its next stop or its end.

## Main results

* `Host.start_false`, `Host.finish_eq`: the host behind the start and the end of a run.
-/

namespace LineBasic

/-- A running program that can be asked to stop. -/
structure Machine where
  process : Process
  stop : Option StopRequest
  errorTrap : Bool

namespace Machine

/-- A program that was never started. -/
def initial : Machine := ⟨Process.initial, none, false⟩

instance : Debuggee Machine where
  requestStop m request := { m with stop := some (StopRequest.merge m.stop request) }
  clearStop m := { m with stop := none }
  setErrorTrap m on := { m with errorTrap := on }
  calls m := m.process.calls.map fun call => .number call.line
  vars m := m.process.vars
  setVariables m vars := { m with process := { m.process with vars := vars } }
  print m text := { m with process := { m.process with output := m.process.output ++ text } }

@[simp] theorem requestStop_eq (m : Machine) (request : StopRequest) :
    Debuggee.requestStop m request = { m with stop := some (StopRequest.merge m.stop request) } :=
  rfl

@[simp] theorem clearStop_eq (m : Machine) : Debuggee.clearStop m = { m with stop := none } := rfl

@[simp] theorem depth_eq (m : Machine) : Debuggee.depth m = m.process.calls.length :=
  List.length_map _

/-- The pending stop request, which is gone then. -/
def takeStop (m : Machine) : Option StopRequest × Machine := (m.stop, { m with stop := none })

/-- What was printed since the last time, which is gone then. -/
def takeOutput (m : Machine) : String × Machine :=
  (m.process.output, { m with process := { m.process with output := "" } })

end Machine

/-- How a run came to its end, or to a stop. -/
inductive RunOutcome where
  | finished
  /-- The program stopped before a line. Waiting `delay` milliseconds keeps the selected speed. -/
  | stopped (line : LineId) (reason : StopReason) (delay : Nat)
  | failed (f : Fault)

/-- A program under the debugger. -/
structure Host where
  program : Program
  debugger : Debugger Machine
  finished : Bool

namespace Host

/-- A program that is ready to start, with a debugger that knows its text and tests conditions. -/
def ofProgram (program : Program) : Host :=
  { program
    debugger :=
      { (Debugger.attach Machine.initial).useEvaluatorConditions with
        sourceMap := program.sourceMap }
    finished := true }

/-- The program that a text is, ready to start. -/
def load (source : String) : Except LoadError Host := (Program.parse source).map ofProgram

/-! ## Parts -/

/-- The running program with its stop request. -/
def machine (h : Host) : Machine := h.debugger.runtime

/-- The running program. -/
def process (h : Host) : Process := h.machine.process

/-- The host with another state of the running program. -/
def withMachine (h : Host) (m : Machine) : Host :=
  { h with debugger := { h.debugger with runtime := m } }

/-- The host with another debugger. -/
def withDebugger (h : Host) (d : Debugger Machine) : Host := { h with debugger := d }

/-- The pending stop request, which is gone then. -/
def takeStop (h : Host) : Option StopRequest × Host :=
  let (stop, m) := h.machine.takeStop
  (stop, h.withMachine m)

/-- What was printed since the last time, which is gone then. -/
def takeOutput (h : Host) : String × Host :=
  let (text, m) := h.machine.takeOutput
  (text, h.withMachine m)

/-! ## Runs -/

/-- Starts a run from the first line. On request the program pauses before it. -/
def start (h : Host) (stopOnEntry : Bool) : Host :=
  let h := h.withMachine { h.machine with process := Process.initial, stop := none }
  let d := h.debugger.start
  { h with
    finished := false
    debugger := if stopOnEntry then d.beginStep .intoCalls else d }

/-- A start clears all marks of an earlier run. -/
theorem start_false (h : Host) :
    h.start false =
      { h with
        finished := false
        debugger :=
          { h.debugger.clearMarks with
            runtime := { h.machine with process := Process.initial, stop := none },
            lineCounter := 0, state := .running,
            events := h.debugger.events.tell (Debugger.change
              { h.debugger.clearMarks with
                runtime := { h.machine with process := Process.initial, stop := none } }
              .running) } } := by
  unfold start
  dsimp only
  rw [Debugger.start_eq]
  rfl

/-- Ends a run. -/
def finish (h : Host) : Host :=
  { h with finished := true, debugger := h.debugger.clearStop.reset }

/-- The end of a run puts the debugger to sleep and takes its marks away. -/
theorem finish_eq (h : Host) :
    h.finish =
      { h with
        finished := true
        debugger :=
          { h.debugger.clearStop.clearMarks with
            lineCounter := 0, nextDelay := 0, state := .idle,
            events := h.debugger.events.tell
              (h.debugger.clearStop.clearMarks.change .idle) } } := by
  unfold finish
  rw [Debugger.reset_eq]
  rfl

@[simp] theorem finish_process (h : Host) : h.finish.process = h.process := by
  rw [finish_eq]
  rfl

/-- Lets the debugger look at a line that the program has reached the start of. -/
def visit (h : Host) (number : Nat) : Host :=
  if h.process.pc.statement = 0 then
    h.withDebugger (h.debugger.onLine (.number number))
  else h

/-- What a fault on a line leads to: a stop if the debugger takes it, else the end of the run. -/
def handleFault (h : Host) (number : Nat) (f : Fault) : Host × RunOutcome :=
  let f := f.atLine (.number number)
  let (taken, d) := if h.machine.errorTrap then h.debugger.handleError f else (false, h.debugger)
  let h := h.withDebugger d
  if taken then (h.takeStop.2, .stopped (f.line.getD (.number number)) .pause 0)
  else (h.finish, .failed f)

/-- Runs the next statement on a line. -/
def execute (h : Host) (line : SourceLine) : Host × Option RunOutcome :=
  let (p, stepEnd) := h.process.step h.program line
  let h := h.withMachine { h.machine with process := p }
  match stepEnd with
  | .goesOn => (h, none)
  | .ends => (h.finish, some .finished)
  | .fails f =>
      let (h, outcome) := h.handleFault line.number f
      (h, some outcome)

/-- One step of a run, with the outcome if the run has come to a stop or its end. -/
def tick (h : Host) : Host × Option RunOutcome :=
  match h.program.get? h.process.pc.line with
  | none => (h.finish, some .finished)
  | some line =>
      let h := h.visit line.number
      let (stop, h) := if h.process.pc.statement = 0 then h.takeStop else (none, h)
      match stop with
      | some request =>
          (h, some (.stopped (.number line.number) request.reason h.debugger.nextDelay))
      | none => h.execute line

/-- Runs on for at most `fuel` steps, up to a stop or the end of the run. -/
def runFor : (fuel : Nat) → Host → Option (Host × RunOutcome)
  | 0, _ => none
  | fuel + 1, h =>
      match h.tick with
      | (h, some outcome) => some (h, outcome)
      | (h, none) => runFor fuel h

/-- Runs up to the next stop or the end of the run; none if that takes more than `fuel` steps. -/
def run (fuel : Nat) (h : Host) : Option (Host × RunOutcome) :=
  if h.finished then some (h, .finished) else h.runFor fuel

end Host

end LineBasic
