import LineBasic.Proofs.ControlState
import LineBasic.Proofs.HostHistory
import LineBasic.Proofs.LikeDebuggers
import LineBasic.Proofs.StepInto

/-!
# Restarts

A start takes back whatever the program has done before, and clears the marks of earlier runs.  What
comes after it should depend on the program and its settings, and on nothing that was done with the
host before.  So two hosts of one program are followed here, each with a history of its own, through
the same requests behind a start.

One thing of the past is left.  A pause that is commanded before the first line of the new run names
the line of an earlier run as the one that the program is paused on, and going on from that pause
marks this line to be passed over.  The mark is right for no host.  It does something if it happens
to name the first line of the program, since this line is hooked next: then neither its breakpoint
nor the speed holds the program up there.  A host that has not hooked the line last does not have
the mark, so the two differ.

## Main definitions

* `Request`, `Report`: what is asked of a started host, and what it shows then.
* `Host.converse`: the reports on a list of requests.
* `SameSettings`: two debuggers are set in the same way.
* `Request.leavesPause`: requests go on from a pause before they let the program run.

## Main results

* `Twins.tick`: a tick of two hosts that are alike.
* `Waiting.command`, `Waiting.tick`: what happens before the first line, and at it.
* `restart_forgets`: behind a start both hosts give the same reports.
-/

namespace LineBasic

/-! ## Conversations -/

/-- A command to the debugger of a started program. -/
inductive DebugCommand where
  | pause
  | resume
  | step (mode : StepMode)
  | eval (expression : String)
  | exec (statement : String)

/-- What is asked of a started host. -/
inductive Request where
  | run
  | command (c : DebugCommand)

/-- The direct answer to a request. -/
inductive Reply where
  | done
  | ran (o : RunOutcome)
  | evaluated (result : Except EvalError Value)
  | executed (result : Except EvalError Unit)

/-- What a host shows behind a request: the answer, the state, and the program with its variables
and its output. -/
structure Report where
  reply : Reply
  state : DebugState
  process : Process

namespace DebugCommand

/-- What a command answers, and what it makes of the debugger. -/
@[simp] def apply (d : Debugger Machine) : DebugCommand → Reply × Debugger Machine
  | pause => (.done, d.pause)
  | resume => (.done, d.resume)
  | step mode => (.done, d.beginStep mode)
  | eval expression => (.evaluated (d.eval expression).1, (d.eval expression).2)
  | exec statement => (.executed (d.exec statement).1, (d.exec statement).2)

/-- Whether a command lets the program go on. -/
def goesOn : DebugCommand → Bool
  | resume | step _ => true
  | pause | eval _ | exec _ => false

/-- Whether the program is paused behind a command, if it was paused before. -/
def pausedBehind (paused : Bool) : DebugCommand → Bool
  | pause => true
  | resume | step _ => false
  | eval _ | exec _ => paused

end DebugCommand

namespace Host

/-- A request to a host, with its answer; none if a run takes more than `fuel` steps. -/
def answer (fuel : Nat) (h : Host) : Request → Option (Reply × Host)
  | .run => (h.run fuel).map fun (h', o) => (.ran o, h')
  | .command c => some ((c.apply h.debugger).1, h.withDebugger (c.apply h.debugger).2)

/-- The reports on requests, one after the other; none if a run takes more than `fuel` steps. -/
def converse (fuel : Nat) (h : Host) : List Request → Option (List Report)
  | [] => some []
  | request :: rest =>
      match h.answer fuel request with
      | none => none
      | some (reply, h') =>
          (converse fuel h' rest).map (⟨reply, h'.debugger.state, h'.process⟩ :: ·)

end Host

/-- Whether requests go on from a pause before they let the program run. -/
def Request.leavesPause (paused : Bool) : List Request → Bool
  | .command c :: rest => (c.goesOn && paused) || leavesPause (c.pausedBehind paused) rest
  | _ => false

namespace Debugger

/-- Two debuggers have the same settings.  Breakpoints are compared by line, switch and condition. -/
structure SameSettings (d d' : Debugger Machine) : Prop where
  breakpoints : d.breakpoints.SameEntries d'.breakpoints
  speed : d'.speed = d.speed
  breakOnError : d'.breakOnError = d.breakOnError
  errorTrap : d'.runtime.errorTrap = d.runtime.errorTrap
  conditionTest : d'.conditionTest = d.conditionTest
  hasEvaluator : d'.hasEvaluator = d.hasEvaluator

variable {d d' : Debugger Machine}

/-! ## Commands behind different pasts -/

/-- Commands answer the same behind different pasts. -/
theorem near_command (h : Near d d') (c : DebugCommand) :
    (c.apply d').1 = (c.apply d).1 ∧ Near (c.apply d).2 (c.apply d').2 := by
  obtain ⟨line, delay, mark, store, map, bus, same, rfl⟩ := h
  cases c with
  | pause =>
      refine ⟨rfl, ?_⟩
      show Near (d.pauseWith .paused none) (pauseWith _ .paused none)
      rw [pauseWith_eq, pauseWith_eq]
      exact ⟨line, delay, mark, store, map, _, same, rfl⟩
  | resume =>
      refine ⟨rfl, ?_⟩
      show Near d.resume (resume _)
      rw [resume_eq, resume_eq]
      exact ⟨line, delay, _, store, map, _, same, rfl⟩
  | step mode =>
      refine ⟨rfl, ?_⟩
      show Near (d.beginStep mode) (beginStep _ mode)
      rcases Decidable.em (d.state = .idle) with asleep | active
      · rw [beginStep_of_idle asleep, beginStep_of_idle (by exact asleep)]
        exact ⟨line, delay, mark, store, map, bus, same, rfl⟩
      · rw [beginStep_eq active, beginStep_eq (by exact active)]
        exact ⟨line, delay, _, store, map, _, same, rfl⟩
  | eval expression =>
      obtain ⟨hresult, hnear⟩ := near_atPause ⟨line, delay, mark, store, map, bus, same, rfl⟩
        "evaluate" (Snippet.evaluate expression)
      exact ⟨congrArg Reply.evaluated hresult, hnear⟩
  | exec statement =>
      obtain ⟨hresult, hnear⟩ := near_atPause ⟨line, delay, mark, store, map, bus, same, rfl⟩
        "execute" (Snippet.execute statement)
      exact ⟨congrArg Reply.executed hresult, hnear⟩

/-- What a command does to the place where the program is paused, and to the mark of its line. -/
structure Commanded (d : Debugger Machine) (c : DebugCommand) (d' : Debugger Machine) : Prop where
  line : d'.currentLine = d.currentLine
  delay : d'.nextDelay = d.nextDelay
  mark : d'.skipBreakpoint = if c.goesOn then d.markOnLeaving else d.skipBreakpoint
  paused : d.state ≠ .idle → decide (d'.state = .paused) = c.pausedBehind (decide (d.state = .paused))
  active : d.state ≠ .idle → d'.state ≠ .idle
  throttled : d'.throttledLine = d.throttledLine
  pace : d'.pace = d.pace
  breakpoints : d'.breakpoints = d.breakpoints
  pc : d'.runtime.process.pc = d.runtime.process.pc

/-- A command that runs a snippet leaves everything but the variables as it is. -/
theorem commanded_atPause {α : Type} {c : DebugCommand} (stays : c.goesOn = false)
    (keeps : ∀ paused, c.pausedBehind paused = paused) (purpose : String)
    (snippet : Variables → Answer α) : Commanded d c (d.atPause purpose snippet).2 := by
  rw [atPause_eq]
  refine ⟨rfl, rfl, ?_, fun _ => (keeps _).symm, id, rfl, rfl, rfl, ?_⟩
  · rw [stays]
    rfl
  · dsimp only
    split
    · rfl
    · rfl

theorem commanded_apply (d : Debugger Machine) (c : DebugCommand) : Commanded d c (c.apply d).2 := by
  cases c with
  | pause =>
      show Commanded d .pause (d.pauseWith .paused none)
      rw [pauseWith_eq]
      exact ⟨rfl, rfl, rfl, fun _ => rfl, fun _ => nofun, rfl, rfl, rfl, rfl⟩
  | resume =>
      show Commanded d .resume d.resume
      rw [resume_eq]
      exact ⟨rfl, rfl, rfl, fun _ => rfl, fun _ => nofun, rfl, rfl, rfl, rfl⟩
  | step mode =>
      show Commanded d (.step mode) (d.beginStep mode)
      rcases Decidable.em (d.state = .idle) with asleep | active
      · have hunmarked : d.markOnLeaving = d.skipBreakpoint := by simp [asleep]
        rw [beginStep_of_idle asleep]
        exact ⟨rfl, rfl, hunmarked.symm, fun h => absurd asleep h, id, rfl, rfl, rfl, rfl⟩
      · rw [beginStep_eq active]
        exact ⟨rfl, rfl, rfl, fun _ => rfl, fun _ => nofun, rfl, rfl, rfl, rfl⟩
  | eval expression =>
      exact commanded_atPause rfl (fun _ => rfl) "evaluate" (Snippet.evaluate expression)
  | exec statement =>
      exact commanded_atPause rfl (fun _ => rfl) "execute" (Snippet.execute statement)

/-- Commands keep debuggers alike. -/
theorem alike_command (h : Alike d d') (c : DebugCommand) :
    Alike (c.apply d).2 (c.apply d').2 := by
  have hcommanded := commanded_apply d c
  have hcommanded' := commanded_apply d' c
  refine (near_command h.near c).2.alike ?_ ?_ ?_
  · rw [hcommanded.line, hcommanded'.line]
    obtain ⟨store, map, bus, same, rfl⟩ := h
    rfl
  · rw [hcommanded.delay, hcommanded'.delay]
    obtain ⟨store, map, bus, same, rfl⟩ := h
    rfl
  · rw [hcommanded.mark, hcommanded'.mark]
    obtain ⟨store, map, bus, same, rfl⟩ := h
    rfl

end Debugger

/-! ## Hosts that are alike -/

namespace Host

open Debugger

variable {h h' v v' : Host} {line : SourceLine}

/-- Two hosts of one program are at the same point of it, with debuggers that are alike. -/
structure Twins (h h' : Host) : Prop where
  program : h'.program = h.program
  finished : h'.finished = h.finished
  debugger : Alike h.debugger h'.debugger

theorem Twins.machine (ht : Twins h h') : h'.machine = h.machine := by
  obtain ⟨store, map, bus, same, hd⟩ := ht.debugger
  unfold Host.machine
  rw [hd]

theorem Twins.process (ht : Twins h h') : h'.process = h.process :=
  congrArg Machine.process ht.machine

/-- Twins stay twins when their program is in another state. -/
theorem Twins.withMachine (ht : Twins h h') (m : Machine) :
    Twins (h.withMachine m) (h'.withMachine m) := by
  refine ⟨ht.program, ht.finished, ?_⟩
  obtain ⟨store, map, bus, same, hd⟩ := ht.debugger
  unfold Host.withMachine
  rw [hd]
  exact ⟨store, map, bus, same, rfl⟩

theorem Twins.withDebugger (ht : Twins h h') {d d' : Debugger Machine} (alike : Alike d d') :
    Twins (h.withDebugger d) (h'.withDebugger d') := ⟨ht.program, ht.finished, alike⟩

theorem Twins.finish (ht : Twins h h') : Twins h.finish h'.finish := by
  refine ⟨ht.program, rfl, alike_reset ?_⟩
  obtain ⟨store, map, bus, same, hd⟩ := ht.debugger
  rw [hd]
  exact ⟨store, map, bus, same, rfl⟩

/-- The same result, with hosts that are twins. -/
def Paired {α : Type} (r r' : Host × α) : Prop := r'.2 = r.2 ∧ Twins r.1 r'.1

theorem Twins.takeStop (ht : Twins h h') :
    h'.takeStop.1 = h.takeStop.1 ∧ Twins h.takeStop.2 h'.takeStop.2 := by
  refine ⟨congrArg Machine.stop ht.machine, ?_⟩
  have htaken := ht.withMachine { h.machine with stop := none }
  unfold Host.takeStop
  rw [ht.machine]
  exact htaken

theorem Twins.handleFault (ht : Twins h h') (number : Nat) (f : Fault) :
    Paired (h.handleFault number f) (h'.handleFault number f) := by
  unfold Host.handleFault
  dsimp only
  rw [ht.machine]
  obtain ⟨hsame, halike⟩ := alike_handleError ht.debugger (f.atLine (.number number))
  cases h.machine.errorTrap with
  | true =>
      rw [if_pos rfl, if_pos rfl, hsame]
      split
      · exact ⟨rfl, (ht.withDebugger halike).takeStop.2⟩
      · exact ⟨rfl, (ht.withDebugger halike).finish⟩
  | false => exact ⟨rfl, ht.finish⟩

theorem Twins.execute (ht : Twins h h') (line : SourceLine) :
    Paired (h.execute line) (h'.execute line) := by
  unfold Host.execute
  rw [ht.process, ht.program, ht.machine]
  have hmoved := ht.withMachine
    { h.machine with process := (h.process.step h.program line).1 }
  dsimp only
  split
  · exact ⟨rfl, hmoved⟩
  · exact ⟨rfl, hmoved.finish⟩
  · next f _ =>
      obtain ⟨houtcome, htwins⟩ := hmoved.handleFault line.number f
      exact ⟨congrArg some houtcome, htwins⟩

/-- Once two hosts have looked at a line alike, the tick goes on alike. -/
theorem paired_tick (found : h.program.get? h.process.pc.line = some line)
    (found' : h'.program.get? h'.process.pc.line = some line)
    (visited : Twins (h.visit line.number) (h'.visit line.number)) : Paired h.tick h'.tick := by
  have hstop : ∀ first : Prop, [Decidable first] →
      (if first then (h'.visit line.number).takeStop else (none, h'.visit line.number)).1 =
        (if first then (h.visit line.number).takeStop else (none, h.visit line.number)).1 ∧
      Twins (if first then (h.visit line.number).takeStop else (none, h.visit line.number)).2
        (if first then (h'.visit line.number).takeStop else (none, h'.visit line.number)).2 := by
    intro first _
    split
    · exact visited.takeStop
    · exact ⟨rfl, visited⟩
  obtain ⟨hsame, htwins⟩ := hstop ((h.visit line.number).process.pc.statement = 0)
  unfold Host.tick
  rw [found, found']
  dsimp only
  rw [visited.process, hsame]
  split
  · refine ⟨?_, htwins⟩
    obtain ⟨store, map, bus, same, hd⟩ := htwins.debugger
    dsimp only
    rw [hd]
  · exact htwins.execute line

/-- A tick of two hosts that are twins. -/
theorem Twins.tick (ht : Twins h h') : Paired h.tick h'.tick := by
  cases hfound : h.program.get? h.process.pc.line with
  | none =>
      have hfound' : h'.program.get? h'.process.pc.line = none := by
        rw [ht.program, ht.process]
        exact hfound
      rw [tick_of_past hfound, tick_of_past hfound']
      exact ⟨rfl, ht.finish⟩
  | some line =>
      have hfound' : h'.program.get? h'.process.pc.line = some line := by
        rw [ht.program, ht.process]
        exact hfound
      refine paired_tick hfound hfound' ?_
      unfold visit
      rw [ht.process]
      split
      · exact ht.withDebugger (alike_onLine ht.debugger line.number)
      · exact ht

theorem rel_runFor_succ {fuel : Nat} (tick : Paired h.tick h'.tick)
    (rest : ∀ {x x' : Host}, Twins x x' → Option.Rel Paired (x.runFor fuel) (x'.runFor fuel)) :
    Option.Rel Paired (h.runFor (fuel + 1)) (h'.runFor (fuel + 1)) := by
  unfold Host.runFor
  generalize h.tick = r at tick
  generalize h'.tick = r' at tick
  obtain ⟨x, result⟩ := r
  obtain ⟨x', result'⟩ := r'
  obtain ⟨hresult, htwins⟩ := tick
  cases hresult
  cases result with
  | none => exact rest htwins
  | some o => exact .some ⟨rfl, htwins⟩

theorem Twins.runFor (ht : Twins h h') (fuel : Nat) :
    Option.Rel Paired (h.runFor fuel) (h'.runFor fuel) := by
  induction fuel generalizing h h' with
  | zero => exact .none
  | succ fuel ih => exact rel_runFor_succ ht.tick ih

/-! ## Before the first line -/

/-- The line that was hooked last is the first of the program. -/
def IsAtFirst (h : Host) : Prop :=
  ∃ line, h.program.get? 0 = some line ∧ h.debugger.currentLine = .number line.number

/-- Neither a breakpoint nor the speed holds the program up on its first line. -/
def FirstUnheld (h : Host) : Prop :=
  ∀ line, h.program.get? 0 = some line → h.debugger.Unheld (.number line.number)

/-- A mark that is left of the past says the same about the first line in both hosts, or it does
nothing there. -/
def Harmless (h h' : Host) : Prop := (h.IsAtFirst ↔ h'.IsAtFirst) ∨ h.FirstUnheld

/-- Two hosts are started, with different pasts, and have yet to hook their first line. -/
structure Waiting (rest : List Request) (h h' : Host) : Prop where
  program : h'.program = h.program
  running : h.finished = false
  running' : h'.finished = false
  first : h.process.pc = .first
  near : Near h.debugger h'.debugger
  active : h.debugger.state ≠ .idle
  arrived : h.debugger.throttledLine = none
  /-- Each mark points to the last line of its host, if there is one. -/
  marks : h.debugger.skipBreakpoint = none ∧ h'.debugger.skipBreakpoint = none ∨
    h.debugger.skipBreakpoint = h.debugger.currentLine.number? ∧
      h'.debugger.skipBreakpoint = h'.debugger.currentLine.number?
  /-- There is no mark, and the requests make none, or it is harmless. -/
  safe : Harmless h h' ∨
    (h.debugger.skipBreakpoint = none ∧ h'.debugger.skipBreakpoint = none) ∧
      Request.leavesPause (decide (h.debugger.state = .paused)) rest = false

variable {rest : List Request} {c : DebugCommand}

theorem isAtFirst_withDebugger {d : Debugger Machine} (line : d.currentLine = h.debugger.currentLine) :
    (h.withDebugger d).IsAtFirst ↔ h.IsAtFirst := by
  show (∃ l, h.program.get? 0 = some l ∧ d.currentLine = .number l.number) ↔ _
  rw [line]
  rfl

theorem FirstUnheld.withDebugger {d : Debugger Machine} (hf : h.FirstUnheld)
    (pace : d.pace = h.debugger.pace) (breakpoints : d.breakpoints = h.debugger.breakpoints) :
    (h.withDebugger d).FirstUnheld := by
  intro line found
  obtain ⟨hfree, hoff⟩ := hf line found
  refine ⟨(congrArg Pace.chunk pace).trans hfree, fun bp hbp => hoff bp ?_⟩
  unfold breakpointOn at hbp ⊢
  rw [← breakpoints]
  exact hbp

/-- A command before the first line leaves no mark, unless it goes on from a pause. -/
theorem unmarked_command {d : Debugger Machine} (unmarked : d.skipBreakpoint = none)
    (stays : (c.goesOn && decide (d.state = .paused)) = false) :
    (c.apply d).2.skipBreakpoint = none := by
  rw [(commanded_apply d c).mark]
  cases hgoes : c.goesOn with
  | false => exact unmarked
  | true =>
      rw [hgoes, Bool.true_and] at stays
      rw [if_pos rfl, markOnLeaving_of_moves (of_decide_eq_false stays)]
      exact unmarked

/-- Commands before the first line are answered the same, and leave the hosts waiting. -/
theorem Waiting.command (w : Waiting (.command c :: rest) h h') :
    (c.apply h'.debugger).1 = (c.apply h.debugger).1 ∧
      Waiting rest (h.withDebugger (c.apply h.debugger).2)
        (h'.withDebugger (c.apply h'.debugger).2) := by
  obtain ⟨hreply, hnear⟩ := near_command w.near c
  have hcommanded := commanded_apply h.debugger c
  have hcommanded' := commanded_apply h'.debugger c
  refine ⟨hreply, w.program, w.running, w.running', hcommanded.pc.trans w.first, hnear,
    hcommanded.active w.active, hcommanded.throttled.trans w.arrived, ?_, ?_⟩
  · show (c.apply h.debugger).2.skipBreakpoint = none ∧
        (c.apply h'.debugger).2.skipBreakpoint = none ∨
      (c.apply h.debugger).2.skipBreakpoint = (c.apply h.debugger).2.currentLine.number? ∧
        (c.apply h'.debugger).2.skipBreakpoint = (c.apply h'.debugger).2.currentLine.number?
    rw [hcommanded.mark, hcommanded'.mark, hcommanded.line, hcommanded'.line]
    split
    · unfold markOnLeaving
      rw [w.near.state]
      split
      · exact .inr ⟨rfl, rfl⟩
      · exact w.marks
    · exact w.marks
  · rcases w.safe with (same | unheld) | ⟨⟨unmarked, unmarked'⟩, stays⟩
    · refine .inl (.inl ?_)
      rw [isAtFirst_withDebugger hcommanded.line, isAtFirst_withDebugger hcommanded'.line]
      exact same
    · exact .inl (.inr (unheld.withDebugger hcommanded.pace hcommanded.breakpoints))
    · unfold Request.leavesPause at stays
      rw [Bool.or_eq_false_iff] at stays
      have hstays' := stays.1
      rw [← w.near.state] at hstays'
      refine .inr ⟨⟨unmarked_command unmarked stays.1, unmarked_command unmarked' hstays'⟩, ?_⟩
      exact (congrArg (Request.leavesPause · rest) (hcommanded.paused w.active)).trans stays.2

theorem isAtFirst_iff (found : h.program.get? 0 = some line) :
    h.IsAtFirst ↔ h.debugger.currentLine.number? = some line.number := by
  constructor
  · rintro ⟨line', found', hline⟩
    obtain rfl : line = line' := Option.some.inj (found.symm.trans found')
    rw [hline]
    rfl
  · exact fun h => ⟨line, found, number_of_number? h⟩

/-- Both hosts look at the first line alike. -/
theorem Waiting.visit (w : Waiting rest h h') (found : h.program.get? 0 = some line) :
    Twins (h.visit line.number) (h'.visit line.number) := by
  have hfirst : h.process.pc.statement = 0 := congrArg Position.statement w.first
  have hfirst' : h'.process.pc.statement = 0 := by
    show h'.debugger.runtime.process.pc.statement = 0
    rw [w.near.runtime]
    exact hfirst
  have harrived : h.debugger.throttledLine ≠ some (.number line.number) := by
    rw [w.arrived]
    exact nofun
  rw [visit_of_first hfirst, visit_of_first hfirst']
  refine ⟨w.program, w.running'.trans w.running.symm, ?_⟩
  have hmarked : (h.debugger.skipBreakpoint = some line.number ↔
      h'.debugger.skipBreakpoint = some line.number) →
      Alike (h.debugger.onLine (.number line.number)) (h'.debugger.onLine (.number line.number)) :=
    fun same => alike_onLine_of_marked w.near w.active harrived
      (Bool.eq_iff_iff.2 (by rw [isMarked_number, isMarked_number]; exact same.symm))
  have hunmarked : h.debugger.skipBreakpoint = none → h'.debugger.skipBreakpoint = none →
      Alike (h.debugger.onLine (.number line.number)) (h'.debugger.onLine (.number line.number)) :=
    fun unmarked unmarked' => hmarked (by rw [unmarked, unmarked'])
  rcases w.safe with (same | unheld) | ⟨⟨unmarked, unmarked'⟩, -⟩
  · rcases w.marks with ⟨unmarked, unmarked'⟩ | ⟨mark, mark'⟩
    · exact hunmarked unmarked unmarked'
    · refine hmarked ?_
      rw [mark, mark', ← isAtFirst_iff found, ← isAtFirst_iff (w.program ▸ found)]
      exact same
  · exact alike_onLine_of_unheld w.near w.active harrived (unheld line found)
  · exact hunmarked unmarked unmarked'

/-! ## Behind the end -/

/-- Two hosts have finished, and have different pasts. -/
structure Over (h h' : Host) : Prop where
  finished : h.finished = true
  finished' : h'.finished = true
  near : Near h.debugger h'.debugger

/-- Hosts that are started and behind their first line, if there is one. -/
def Followed (h h' : Host) : Prop := Twins h h' ∨ Over h h'

theorem Followed.near (hf : Followed h h') : Near h.debugger h'.debugger := by
  rcases hf with twins | isOver
  · exact twins.debugger.near
  · exact isOver.near

theorem Followed.command (hf : Followed h h') (c : DebugCommand) :
    Followed (h.withDebugger (c.apply h.debugger).2) (h'.withDebugger (c.apply h'.debugger).2) := by
  rcases hf with twins | isOver
  · exact .inl (twins.withDebugger (alike_command twins.debugger c))
  · exact .inr ⟨isOver.finished, isOver.finished', (near_command isOver.near c).2⟩

/-- The same outcome, of hosts that have been followed. -/
def Answered {α : Type} (r r' : Host × α) : Prop := r'.2 = r.2 ∧ Followed r.1 r'.1

theorem Paired.answered {α : Type} {r r' : Host × α} (hp : Paired r r') : Answered r r' :=
  ⟨hp.1, .inl hp.2⟩

theorem rel_answered {r r' : Option (Host × RunOutcome)} (h : Option.Rel Paired r r') :
    Option.Rel Answered r r' := by
  cases h with
  | some h => exact .some h.answered
  | none => exact .none

theorem Followed.run (hf : Followed h h') (fuel : Nat) :
    Option.Rel Answered (h.run fuel) (h'.run fuel) := by
  unfold Host.run
  rcases hf with twins | isOver
  · rw [twins.finished]
    split
    · exact .some ⟨rfl, .inl twins⟩
    · exact rel_answered (twins.runFor fuel)
  · rw [isOver.finished, isOver.finished']
    exact .some ⟨rfl, .inr isOver⟩

/-- Without a line to hook, both hosts finish. -/
theorem Waiting.finish (w : Waiting rest h h') : Over h.finish h'.finish := by
  refine ⟨rfl, rfl, near_reset ?_⟩
  obtain ⟨line, delay, mark, store, map, bus, same, hd⟩ := w.near
  rw [hd]
  exact ⟨line, delay, mark, store, map, bus, same, rfl⟩

/-- The first run behind a start. -/
theorem Waiting.run (w : Waiting rest h h') (fuel : Nat) :
    Option.Rel Answered (h.run fuel) (h'.run fuel) := by
  have hpc : h.process.pc.line = 0 := congrArg Position.line w.first
  have hpc' : h'.process.pc.line = 0 := by
    show h'.debugger.runtime.process.pc.line = 0
    rw [w.near.runtime]
    exact hpc
  rw [run_of_unfinished w.running, run_of_unfinished w.running']
  cases fuel with
  | zero => exact .none
  | succ fuel =>
      cases hfound : h.program.get? 0 with
      | none =>
          have htick := tick_of_past (h := h) (hpc.symm ▸ hfound)
          have htick' := tick_of_past (h := h') (hpc'.symm ▸ w.program.symm ▸ hfound)
          unfold Host.runFor
          rw [htick, htick']
          exact .some ⟨rfl, .inr w.finish⟩
      | some line =>
          refine rel_answered (rel_runFor_succ ?_ fun ht => ht.runFor fuel)
          exact paired_tick (hpc.symm ▸ hfound) (hpc'.symm ▸ w.program.symm ▸ hfound)
            (w.visit hfound)

/-! ## Conversations of two hosts -/

/-- Behind its answer, a host shows the same as the other. -/
theorem report_eq (x x' : Host) (near : Near x.debugger x'.debugger) (reply : Reply) :
    (⟨reply, x'.debugger.state, x'.process⟩ : Report) = ⟨reply, x.debugger.state, x.process⟩ := by
  have hprocess : x'.process = x.process := congrArg Machine.process near.runtime
  rw [near.state, hprocess]

/-- After a run both hosts go on with the same reports, if hosts that are followed do. -/
theorem converse_run {fuel : Nat} (run : Option.Rel Answered (h.run fuel) (h'.run fuel))
    (goes : ∀ {x x' : Host}, Followed x x' → x'.converse fuel rest = x.converse fuel rest) :
    h'.converse fuel (.run :: rest) = h.converse fuel (.run :: rest) := by
  unfold converse answer
  dsimp only
  generalize h.run fuel = r at run
  generalize h'.run fuel = r' at run
  cases run with
  | none => rfl
  | @some a b hab =>
      obtain ⟨x, o⟩ := a
      obtain ⟨x', o'⟩ := b
      obtain ⟨houtcome, hfollowed⟩ := hab
      cases houtcome
      dsimp only [Option.map_some]
      rw [goes hfollowed, report_eq x x' hfollowed.near]

theorem converse_command {fuel : Nat} (near : Near h.debugger h'.debugger)
    (goes : (h'.withDebugger (c.apply h'.debugger).2).converse fuel rest =
      (h.withDebugger (c.apply h.debugger).2).converse fuel rest) :
    h'.converse fuel (.command c :: rest) = h.converse fuel (.command c :: rest) := by
  obtain ⟨hreply, hnear⟩ := near_command near c
  have hreport := report_eq (h.withDebugger (c.apply h.debugger).2)
    (h'.withDebugger (c.apply h'.debugger).2) hnear (c.apply h.debugger).1
  unfold converse answer
  dsimp only
  rw [goes, hreply, hreport]

theorem Followed.converse (hf : Followed h h') (fuel : Nat) (requests : List Request) :
    h'.converse fuel requests = h.converse fuel requests := by
  induction requests generalizing h h' with
  | nil => rfl
  | cons request rest ih =>
      cases request with
      | run => exact converse_run (hf.run fuel) ih
      | command c => exact converse_command hf.near (ih (hf.command c))

theorem Waiting.converse {requests : List Request} (w : Waiting requests h h') (fuel : Nat) :
    h'.converse fuel requests = h.converse fuel requests := by
  induction requests generalizing h h' with
  | nil => rfl
  | cons request rest ih =>
      cases request with
      | run => exact converse_run (w.run fuel) fun hf => hf.converse fuel rest
      | command c => exact converse_command w.near (ih w.command.2)

/-- A start leaves two hosts waiting that have the same settings. -/
theorem waiting_start (same : h'.program = h.program)
    (settings : SameSettings h.debugger h'.debugger) (pace : h'.debugger.pace = h.debugger.pace)
    (safe : Request.leavesPause false rest = true → Harmless h h') (stopOnEntry : Bool) :
    Waiting rest (h.start stopOnEntry) (h'.start stopOnEntry) := by
  have hfresh : ∀ {requests : List Request},
      (Request.leavesPause false requests = true → Harmless h h') →
        Waiting requests (h.start false) (h'.start false) := by
    intro requests hsafe
    rw [start_false, start_false]
    generalize h'.debugger.events.tell _ = bus'
    refine ⟨same, rfl, rfl, rfl, ?_, nofun, rfl, .inl ⟨rfl, rfl⟩, ?_⟩
    · refine ⟨h'.debugger.currentLine, h'.debugger.nextDelay, none, h'.debugger.breakpoints,
        h'.debugger.sourceMap, bus', settings.breakpoints, ?_⟩
      dsimp only [clearMarks, machine]
      rw [settings.errorTrap, settings.speed, settings.breakOnError, settings.conditionTest,
        settings.hasEvaluator, pace]
    · cases hleaves : Request.leavesPause false requests with
      | true =>
          rcases hsafe hleaves with hlines | hunheld
          · exact .inl (.inl hlines)
          · exact .inl (.inr fun line found => ⟨(hunheld line found).free, (hunheld line found).off⟩)
      | false => exact .inr ⟨⟨rfl, rfl⟩, hleaves⟩
  cases stopOnEntry with
  | false => exact hfresh safe
  | true =>
      -- The step into the first line is a command before it, and the program is not paused there.
      have hentry : Waiting (.command (.step .intoCalls) :: rest) (h.start false) (h'.start false) :=
        hfresh safe
      exact hentry.command.2

end Host

/--
Two hosts of a program have had any histories, and have the same settings: breakpoints on the same
lines, with the same switches and conditions, speed, error breakpoints, error trap and evaluators.
Both are started, and asked the same.  Then every request gets the same answer from both, and leaves
both in the same state, with the same variables and the same output.  A run that takes too many
steps for one of them does so for the other.

If the requests go on from a pause before they let the program run, the lines of the past must not
decide about the first line: it is the line that was hooked last in both hosts or in neither, or
neither a breakpoint nor the speed holds the program up there.
-/
theorem restart_forgets {program : Program} {h h' : Host} (past : HostHistory program h)
    (past' : HostHistory program h') (settings : Debugger.SameSettings h.debugger h'.debugger)
    (stopOnEntry : Bool) (requests : List Request)
    (safe : Request.leavesPause false requests = true →
      (h.IsAtFirst ↔ h'.IsAtFirst) ∨ h.FirstUnheld) (fuel : Nat) :
    (h'.start stopOnEntry).converse fuel requests =
      (h.start stopOnEntry).converse fuel requests := by
  have hpaced : ∀ {g : Host}, HostHistory program g →
      g.program = program ∧ g.debugger.pace = Pace.ofSpeed g.debugger.speed := by
    intro g history
    obtain ⟨ops, hops⟩ := Host.history_performs history
    have hcontrolled : g.debugger.Controlled := by
      rw [hops]
      exact Debugger.perform_induction Debugger.controlled_apply
        (Debugger.controlled_attach Machine.initial) ops
    exact ⟨(Host.history_program history), hcontrolled.pace⟩
  obtain ⟨hprogram, hpace⟩ := hpaced past
  obtain ⟨hprogram', hpace'⟩ := hpaced past'
  have hsame : h'.debugger.pace = h.debugger.pace := by
    rw [hpace, hpace', settings.speed]
  exact (Host.waiting_start (hprogram'.trans hprogram.symm) settings hsame safe
    stopOnEntry).converse fuel

/-! ## A line of the past -/

/-- A line, and nothing behind it. -/
def Program.single : Program :=
  ⟨⟨[(10, ⟨10, "10 stop", 0, 7, ⟨some 10, [.stop]⟩⟩)], List.pairwise_singleton _ _⟩⟩

/-- The program with a breakpoint on its line. -/
def Host.unused : Host :=
  (Host.ofProgram .single).withDebugger
    ((Operation.addBreakpoint 10 none).apply (Host.ofProgram .single).debugger)

/-- The program, paused by its breakpoint. -/
def Host.interrupted : Host := (Host.unused.start false).tick.1

/-- The program, gone on from its breakpoint to its end. -/
def Host.used : Host :=
  (Host.interrupted.withDebugger (Operation.resume.apply Host.interrupted.debugger)).tick.1

theorem history_unused : HostHistory .single .unused :=
  HostHistory.load.operate (.addBreakpoint 10 none) trivial

theorem history_used : HostHistory .single .used := by
  have hrun : (Host.unused.start false).run 1 =
      some (.interrupted, .stopped (.number 10) .pause 0) := rfl
  have hend : (Host.interrupted.withDebugger
      (Operation.resume.apply Host.interrupted.debugger)).run 1 = some (.used, .finished) := rfl
  exact (((history_unused.start false).run hrun).operate .resume trivial).run hend

/-- The run has counted a hit, and changed no setting. -/
theorem sameSettings_used : Debugger.SameSettings Host.unused.debugger Host.used.debugger := by
  refine ⟨fun line => ?_, rfl, rfl, rfl, rfl, rfl⟩
  have hcounted : Host.used.debugger.breakpoints =
      Host.unused.debugger.breakpoints.put ⟨1, 10, true, none, 1⟩ := rfl
  rw [hcounted, BreakpointStore.find?_put]
  split
  · next hline =>
      rw [hline]
      rfl
  · rfl

/-- Started again, the program is paused by its breakpoint and goes on to its end, as before. -/
theorem restart_forgets_used :
    ((HostHistory .single .unused ∧ HostHistory .single .used) ∧
      Debugger.SameSettings Host.unused.debugger Host.used.debugger ∧
      Request.leavesPause false [.run, .command .resume, .run] = false) ∧
    ((Host.used.start false).converse 1 [.run, .command .resume, .run]).map
        (·.map fun report => report.state) = some [.paused, .running, .idle] := by
  have hstays : Request.leavesPause false [.run, .command .resume, .run] = false := rfl
  refine ⟨⟨⟨history_unused, history_used⟩, sameSettings_used, hstays⟩, ?_⟩
  rw [restart_forgets history_unused history_used sameSettings_used false
    [.run, .command .resume, .run] (fun leaves => nomatch hstays.symm.trans leaves) 1]
  rfl

/-- Gone on from a pause before the first line, the program passes over its breakpoint, because it
has stood on that line before.  Without that past the breakpoint pauses it. -/
theorem converse_ne_of_past :
    ((Host.unused.start false).converse 1 [.command .pause, .command .resume, .run]).map
        (·.map fun report => report.state) = some [.paused, .running, .paused] ∧
    ((Host.used.start false).converse 1 [.command .pause, .command .resume, .run]).map
        (·.map fun report => report.state) = some [.paused, .running, .idle] := ⟨rfl, rfl⟩

end LineBasic
