import LineBasic.Breakpoint.Store
import LineBasic.Debuggee
import LineBasic.Event
import LineBasic.Pace
import LineBasic.Snippet
import LineBasic.Step

/-!
# The debugger

The debugger follows a program from line to line. Before each line the runtime calls `onLine`, which
decides whether the program pauses there: for a breakpoint, because a step is over, or to keep the
selected speed. Commands let a paused program go on, and faults can pause it as well.

A runtime that has stopped before a line calls `onLine` for the same line again when it goes on. The
debugger keeps a mark for each cause of a stop, so that the second call lets the line run.

## Main definitions

* `Debugger`: the state, the settings and the marks.
* `start`, `reset`, `pause`, `resume`, `beginStep`: commands.
* `onLine`, `handleError`: what the runtime calls.
* `eval`, `exec`: snippets at a pause.

## Main results

* `emit_eq`, `setState_eq`, `pauseWith_eq`, `resume_eq`, `beginStep_eq` and others: the debugger
  behind each of these, field by field, with what it has announced.
-/

namespace LineBasic

/-- Decides whether the condition of a breakpoint holds. Testing it may act on the program. -/
abbrev ConditionTest (ρ : Type) := String → ρ → Except EvalError Bool × ρ

/-- The place of every line in the text of the program: its start and its length, by identifier. -/
abbrev SourceMap := Table String (Nat × Nat)

/-- The characters of a line in the text of the program, up to and without `stop`. -/
structure LineRange where
  line : LineId
  start : Nat
  stop : Nat
deriving DecidableEq, Repr

/-- A line range as JSON. -/
def LineRange.toJson (r : LineRange) : Json :=
  Json.ofFields [
    ("line", r.line.toJson), ("startPos", Json.ofNat r.start), ("endPos", Json.ofNat r.stop)]

/-- A debugger that is attached to a runtime. -/
structure Debugger (ρ : Type) where
  runtime : ρ
  state : DebugState := .idle
  breakpoints : BreakpointStore := ∅
  speed : Nat := maxSpeed
  pace : Pace := Pace.ofSpeed maxSpeed
  breakOnError : Bool := false
  /-- The error the program is paused on. -/
  lastError : Option ErrorInfo := none
  stepMode : Option StepMode := none
  /-- The call depth at which the step began. -/
  stepDepth : Nat := 0
  /-- The line whose breakpoint is passed over once. -/
  skipBreakpoint : Option Nat := none
  /-- The line whose fault is passed through once. -/
  skipErrorLine : Option LineId := none
  /-- Whether the step has yet to leave the line it began on. -/
  skipStepCheck : Bool := false
  /-- The line that the program stopped before to keep its speed. -/
  throttledLine : Option LineId := none
  currentLine : LineId := default
  /-- The lines since the last wait. -/
  lineCounter : Nat := 0
  /-- The wait in milliseconds that the last line asks for. -/
  nextDelay : Nat := 0
  sourceMap : SourceMap := ∅
  conditionTest : Option (ConditionTest ρ) := none
  /-- Whether snippets can be evaluated. -/
  hasEvaluator : Bool := false
  events : EventBus Event := EventBus.empty

namespace Debugger

variable {ρ : Type} [Debuggee ρ]

/-- A debugger attached to a runtime, whose faults it receives from now on. -/
def attach (runtime : ρ) : Debugger ρ := { runtime := Debuggee.setErrorTrap runtime true }

/-! ## Views -/

/-- The program at this moment. -/
def snapshot (d : Debugger ρ) : Snapshot :=
  ⟨d.currentLine, d.state, Debuggee.calls d.runtime, Debuggee.vars d.runtime, d.lastError⟩

/-- The current line and the lines of the pending calls. -/
def stack (d : Debugger ρ) : List StackFrame := callStack d.currentLine (Debuggee.calls d.runtime)

/-- The place of a line in the text of the program. -/
def lineRange? (d : Debugger ρ) (line : LineId) : Option LineRange :=
  (d.sourceMap.find? line.toText).map fun (start, len) => ⟨line, start, start + len⟩

/-! ## Events and stops -/

/-- Announces an event to the listeners. -/
def emit (d : Debugger ρ) (kind : EventKind) (bp : Option Breakpoint) : Debugger ρ :=
  if d.events.isEmpty then d
  else { d with events := d.events.emit ⟨kind, d.snapshot, bp⟩ }

/-- Whether anybody listens matters to the bus alone. -/
@[simp] theorem emit_eq (d : Debugger ρ) (kind : EventKind) (bp : Option Breakpoint) :
    d.emit kind bp = { d with events := d.events.emit ⟨kind, d.snapshot, bp⟩ } := by
  unfold emit
  split
  · next hnone => rw [EventBus.emit_of_isEmpty hnone]
  · rfl

/-- Changes the state, and announces that if it is a change. -/
def setState (d : Debugger ρ) (state : DebugState) : Debugger ρ :=
  if d.state = state then d else emit { d with state := state } .stateChange none

/-- What is announced for a change to a state. -/
def change (d : Debugger ρ) (state : DebugState) : List Event :=
  if d.state = state then [] else [⟨.stateChange, snapshot { d with state := state }, none⟩]

@[simp] theorem setState_eq (d : Debugger ρ) (state : DebugState) :
    d.setState state = { d with state := state, events := d.events.tell (d.change state) } := by
  unfold setState change
  split
  · next hsame =>
      subst hsame
      rfl
  · exact emit_eq _ _ _

/-- Asks the runtime for a stop. -/
@[simp] def requestStop (d : Debugger ρ) (request : StopRequest) : Debugger ρ :=
  { d with runtime := Debuggee.requestStop d.runtime request }

/-- Drops a request that the runtime has not followed yet. -/
@[simp] def clearStop (d : Debugger ρ) : Debugger ρ :=
  { d with runtime := Debuggee.clearStop d.runtime }

/-- Pauses the program and announces why. -/
def pauseWith (d : Debugger ρ) (kind : EventKind) (bp : Option Breakpoint) : Debugger ρ :=
  ((d.setState .paused).requestStop .pause).emit kind bp

@[simp] theorem pauseWith_eq (d : Debugger ρ) (kind : EventKind) (bp : Option Breakpoint) :
    d.pauseWith kind bp =
      { d with
        state := .paused, runtime := Debuggee.requestStop d.runtime .pause,
        events := d.events.tell (d.change .paused ++
          [⟨kind, snapshot { d with
            state := .paused, runtime := Debuggee.requestStop d.runtime .pause }, bp⟩]) } := by
  unfold pauseWith
  rw [setState_eq, emit_eq, EventBus.tell_append]
  rfl

/-! ## Commands -/

/-- Takes away all marks of an earlier run. -/
@[simp] def clearMarks (d : Debugger ρ) : Debugger ρ :=
  { d with
    stepMode := none, stepDepth := 0, skipBreakpoint := none, skipErrorLine := none,
    skipStepCheck := false, throttledLine := none, lastError := none }

/-- A run of the program begins. -/
def start (d : Debugger ρ) : Debugger ρ :=
  setState { d.clearMarks with lineCounter := 0 } .running

/-- A run of the program is over. Breakpoints and settings stay. -/
def reset (d : Debugger ρ) : Debugger ρ :=
  setState { d.clearMarks with lineCounter := 0, nextDelay := 0 } .idle

@[simp] theorem start_eq (d : Debugger ρ) :
    d.start =
      { d.clearMarks with
        lineCounter := 0, state := .running,
        events := d.events.tell (d.clearMarks.change .running) } :=
  setState_eq _ _

@[simp] theorem reset_eq (d : Debugger ρ) :
    d.reset =
      { d.clearMarks with
        lineCounter := 0, nextDelay := 0, state := .idle,
        events := d.events.tell (d.clearMarks.change .idle) } :=
  setState_eq _ _

/-- Leaves the faults of the program to itself. -/
def detach (d : Debugger ρ) : Debugger ρ :=
  { d with runtime := Debuggee.setErrorTrap d.runtime false }

/-- Pauses the program at its next line. -/
@[simp] def pause (d : Debugger ρ) : Debugger ρ := d.pauseWith .paused none

/-- Marks the line of the error that the program is paused on, whose fault is not to pause again. -/
def leaveError (d : Debugger ρ) : Debugger ρ :=
  match d.lastError with
  | some e => { d with lastError := none, skipErrorLine := some e.line }
  | none => d

/-- The mark that a command leaves for the breakpoint of the line on which the program pauses. -/
def markOnLeaving (d : Debugger ρ) : Option Nat :=
  if d.state = .paused then d.currentLine.number? else d.skipBreakpoint

section

omit [Debuggee ρ]

@[simp] theorem markOnLeaving_of_paused {d : Debugger ρ} (paused : d.state = .paused) :
    d.markOnLeaving = d.currentLine.number? :=
  if_pos paused

@[simp] theorem markOnLeaving_of_moves {d : Debugger ρ} (moves : d.state ≠ .paused) :
    d.markOnLeaving = d.skipBreakpoint :=
  if_neg moves

@[simp] theorem leaveError_eq (d : Debugger ρ) :
    d.leaveError =
      { d with
        lastError := none,
        skipErrorLine := (d.lastError.map ErrorInfo.line).or d.skipErrorLine } := by
  unfold leaveError
  split
  · next e h =>
      rw [h]
      rfl
  · next h =>
      rw [h]
      show d = { d with lastError := none }
      rw [← h]

end

/-- Lets the program run on. -/
def resume (d : Debugger ρ) : Debugger ρ :=
  let d := d.leaveError
  let d := if d.state = .paused then { d with skipBreakpoint := d.currentLine.number? } else d
  ((setState { d with stepMode := none } .running).clearStop).emit .resumed none

/-- A program that goes on leaves its error and its line behind before anybody hears of it. -/
@[simp] theorem resume_eq (d : Debugger ρ) :
    d.resume =
      { d with
        lastError := none,
        skipErrorLine := (d.lastError.map ErrorInfo.line).or d.skipErrorLine,
        skipBreakpoint := d.markOnLeaving, stepMode := none, state := .running,
        runtime := Debuggee.clearStop d.runtime,
        events := d.events.tell (change { d with lastError := none } .running ++
          [⟨.resumed, snapshot { d with
            lastError := none, state := .running, runtime := Debuggee.clearStop d.runtime },
            none⟩]) } := by
  unfold resume markOnLeaving
  rw [leaveError_eq]
  dsimp only
  split <;> rw [setState_eq, emit_eq, EventBus.tell_append] <;> rfl

/-- Lets the program go a step. Without a run there is none. -/
def beginStep (d : Debugger ρ) (mode : StepMode) : Debugger ρ :=
  if d.state = .idle then d
  else
    let d := d.leaveError
    let d :=
      if d.state = .paused then
        { d with skipBreakpoint := d.currentLine.number?, skipStepCheck := true }
      else d
    (setState { d with stepMode := some mode, stepDepth := Debuggee.depth d.runtime }
      .stepping).clearStop

@[simp] theorem beginStep_of_idle {d : Debugger ρ} (asleep : d.state = .idle) (mode : StepMode) :
    d.beginStep mode = d :=
  if_pos asleep

/-- A step begins as a program goes on, with the depth of its calls taken down. -/
@[simp] theorem beginStep_eq {d : Debugger ρ} (active : d.state ≠ .idle) (mode : StepMode) :
    d.beginStep mode =
      { d with
        lastError := none,
        skipErrorLine := (d.lastError.map ErrorInfo.line).or d.skipErrorLine,
        skipBreakpoint := d.markOnLeaving,
        skipStepCheck := if d.state = .paused then true else d.skipStepCheck,
        stepMode := some mode, stepDepth := Debuggee.depth d.runtime, state := .stepping,
        runtime := Debuggee.clearStop d.runtime,
        events := d.events.tell (change { d with lastError := none } .stepping) } := by
  unfold beginStep markOnLeaving
  rw [if_neg active, leaveError_eq]
  dsimp only
  split <;> rw [setState_eq] <;> rfl

/-! ## Before a line -/

/-- The result of the condition of a breakpoint: without a condition, or nobody to test it, it
holds. A condition that fails does not hold. -/
def testCondition (d : Debugger ρ) (condition : Option String) : Bool × Debugger ρ :=
  match condition, d.conditionTest with
  | some text, some test =>
      let (result, runtime) := test text d.runtime
      (result.toOption.getD false, { d with runtime := runtime })
  | _, _ => (true, d)

/-- Counts a hit of the breakpoint on a line. -/
def countHit (d : Debugger ρ) (line : Nat) : Option Breakpoint × Debugger ρ :=
  match d.breakpoints.hit line with
  | some (bp, store) => (some bp, { d with breakpoints := store })
  | none => (none, d)

/--
The breakpoint that pauses the program on the current line, with the hit counted. The mark of a line
to pass over is spent on the first numbered line.
-/
def checkBreakpoint (d : Debugger ρ) : Option Breakpoint × Debugger ρ :=
  match d.currentLine.number? with
  | none => (none, d)
  | some line =>
      let skipped := d.skipBreakpoint
      let d := { d with skipBreakpoint := none }
      if skipped = some line then (none, d)
      else match d.breakpoints.find? line with
        | none => (none, d)
        | some bp =>
            if bp.enabled then
              let (holds, d) := d.testCondition bp.condition
              if holds then d.countHit line else (none, d)
            else (none, d)

/-- Whether the step is over on the current line. The line it began on does not end it. -/
def checkStep (d : Debugger ρ) : Bool × Debugger ρ :=
  match d.stepMode with
  | none => (false, d)
  | some mode =>
      if d.skipStepCheck then (false, { d with skipStepCheck := false })
      else (mode.isOver (Debuggee.depth d.runtime) d.stepDepth, d)

/-- Holds the program up as its speed asks for. -/
def throttle (d : Debugger ρ) : Debugger ρ :=
  match d.pace.chunk with
  | none => d
  | some chunk =>
      if d.speed = 0 then d.pauseWith .step none
      else if chunk ≤ d.lineCounter + 1 then
        (requestStop
          { d with
            lineCounter := 0, nextDelay := d.pace.delay, throttledLine := some d.currentLine }
          .throttle).emit .step none
      else { d with lineCounter := d.lineCounter + 1 }

/-- Pauses the program before the current line. -/
def stopBefore (d : Debugger ρ) (kind : EventKind) (bp : Option Breakpoint) : Debugger ρ :=
  pauseWith { d with stepMode := none, lineCounter := 0 } kind bp

@[simp] theorem stopBefore_eq (d : Debugger ρ) (kind : EventKind) (bp : Option Breakpoint) :
    d.stopBefore kind bp =
      { d with
        stepMode := none, lineCounter := 0, state := .paused,
        runtime := Debuggee.requestStop d.runtime .pause,
        events := d.events.tell (d.change .paused ++
          [⟨kind, snapshot { d with
            state := .paused, runtime := Debuggee.requestStop d.runtime .pause }, bp⟩]) } :=
  pauseWith_eq _ _ _

/-- Takes the current line as a new one: a breakpoint comes first, then a step, then the speed. -/
def arrive (d : Debugger ρ) : Debugger ρ :=
  let resumedHere := d.skipBreakpoint.isSome && d.skipBreakpoint = d.currentLine.number?
  match d.checkBreakpoint with
  | (some bp, d) => d.stopBefore .breakpoint (some bp)
  | (none, d) =>
      match d.checkStep with
      | (true, d) => d.stopBefore .step none
      | (false, d) => if resumedHere then d else d.throttle

/-- Forgets the line whose fault is passed through, once the program is on another. -/
def dropErrorMark (d : Debugger ρ) : Debugger ρ :=
  if d.skipErrorLine = some d.currentLine then d else { d with skipErrorLine := none }

/-- Takes note of the line that runs next. The runtime calls this before each line. -/
def onLine (d : Debugger ρ) (line : LineId) : Debugger ρ :=
  let d := { d with currentLine := line, nextDelay := 0 }
  if d.state = .idle then d
  else
    let d := d.dropErrorMark
    let throttled := d.throttledLine
    let d := { d with throttledLine := none }
    if throttled = some line then d else d.arrive

/-! ## Faults -/

/--
Takes a fault of the program, and tells whether the program pauses for it. If not, the program deals
with the fault itself.
-/
def handleError (d : Debugger ρ) (f : Fault) : Bool × Debugger ρ :=
  if d.breakOnError then
    let line := f.line.getD d.currentLine
    if d.skipErrorLine = some line then (false, { d with skipErrorLine := none })
    else
      (true, pauseWith
        { d with
          lastError := some (ErrorInfo.ofFault f line), currentLine := line, stepMode := none }
        .error none)
  else (false, d)

/-! ## Settings -/

/-- Pauses the program on faults, or no longer. -/
def setBreakOnError (d : Debugger ρ) (on : Bool) : Debugger ρ := { d with breakOnError := on }

/-- Sets the speed, at most the highest, and counts lines anew. -/
def setSpeed (d : Debugger ρ) (speed : Nat) : Debugger ρ :=
  let speed := min speed maxSpeed
  { d with speed := speed, pace := Pace.ofSpeed speed, lineCounter := 0 }

/-- Creates a breakpoint. -/
def addBreakpoint (d : Debugger ρ) (line : Nat) (condition : Option String) :
    Breakpoint × Debugger ρ :=
  let (bp, store) := d.breakpoints.add line condition
  (bp, { d with breakpoints := store })

/-- Takes the breakpoint off a line. -/
def removeBreakpoint (d : Debugger ρ) (line : Nat) : Option Breakpoint × Debugger ρ :=
  let (bp, store) := d.breakpoints.remove line
  (bp, { d with breakpoints := store })

/-- Switches the breakpoint on a line on or off, or creates one. -/
def toggleBreakpoint (d : Debugger ρ) (line : Nat) : Breakpoint × Debugger ρ :=
  let (bp, store) := d.breakpoints.toggle line
  (bp, { d with breakpoints := store })

/-- Takes all breakpoints off. -/
def clearBreakpoints (d : Debugger ρ) : Debugger ρ :=
  { d with breakpoints := d.breakpoints.clear }

/-- Replaces all breakpoints by those of the entries. -/
def importBreakpoints (d : Debugger ρ) (entries : List BreakpointEntry) : Debugger ρ :=
  { d with breakpoints := d.breakpoints.replaceAll entries }

/-- Adds a listener. -/
def subscribe (d : Debugger ρ) : ListenerId × Debugger ρ :=
  let (id, events) := d.events.subscribe
  (id, { d with events := events })

/-- Takes a listener away, and tells whether it was there. -/
def unsubscribe (d : Debugger ρ) (id : ListenerId) : Bool × Debugger ρ :=
  let (wasLive, events) := d.events.unsubscribe id
  (wasLive, { d with events := events })

/-! ## Snippets -/

/-- A runtime after a snippet, with the result of the snippet. -/
def settle {α : Type} (runtime : ρ) (a : Answer α) : Except EvalError α × ρ :=
  (a.result, Debuggee.print (Debuggee.setVariables runtime a.vars) a.printed)

/-- The condition test that evaluates the condition on the variables of the program. -/
def evaluatorTest : ConditionTest ρ := fun condition runtime =>
  let (result, runtime) := settle runtime (Snippet.evaluate condition (Debuggee.vars runtime))
  (result.map Value.isTruthy, runtime)

/-- Evaluates snippets and conditions from now on. -/
def useEvaluatorConditions (d : Debugger ρ) : Debugger ρ :=
  { d with hasEvaluator := true, conditionTest := some evaluatorTest }

/-- Runs a snippet, if snippets can be evaluated and the program is paused. -/
def atPause {α : Type} (d : Debugger ρ) (purpose : String) (snippet : Variables → Answer α) :
    Except EvalError α × Debugger ρ :=
  if !d.hasEvaluator then (.error .noEvaluator, d)
  else if d.state ≠ .paused then (.error (.notPaused purpose), d)
  else
    let (result, runtime) := settle d.runtime (snippet (Debuggee.vars d.runtime))
    (result, { d with runtime := runtime })

/-- A snippet acts on the runtime and on nothing else. -/
@[simp] theorem atPause_eq {α : Type} (d : Debugger ρ) (purpose : String)
    (snippet : Variables → Answer α) :
    (d.atPause purpose snippet).2 =
      { d with
        runtime :=
          if d.hasEvaluator = true ∧ d.state = .paused then
            (settle d.runtime (snippet (Debuggee.vars d.runtime))).2
          else d.runtime } := by
  unfold atPause
  split
  · next absent =>
      have closed : ¬ (d.hasEvaluator = true ∧ d.state = .paused) := by
        rintro ⟨hevaluator, -⟩
        rw [hevaluator] at absent
        cases absent
      rw [if_neg closed]
  · next present =>
      split
      · next unpaused => rw [if_neg fun h : d.hasEvaluator = true ∧ _ => unpaused h.2]
      · next paused =>
          rw [if_pos]
          exact ⟨by simpa using present, Decidable.not_not.1 paused⟩

/-- The value of an expression at a pause. -/
@[simp] def eval (d : Debugger ρ) (expression : String) : Except EvalError Value × Debugger ρ :=
  d.atPause "evaluate" (Snippet.evaluate expression)

/-- Runs a statement at a pause. -/
@[simp] def exec (d : Debugger ρ) (statement : String) : Except EvalError Unit × Debugger ρ :=
  d.atPause "execute" (Snippet.execute statement)

end Debugger

end LineBasic
