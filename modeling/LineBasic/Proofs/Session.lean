import LineBasic.Proofs.HostRun

/-!
# Sessions

A session is all that can happen to a host from the moment its program is loaded: it is started,
run, and started again, and between runs any command can be given to the debugger, in any order and
any number of times.  The marks of the debugger point to places that the program may have left
since, so this module says what they can point to.

## Main definitions

* `Control`: the commands that can be given between runs.
* `DebugSession`: the hosts of a session, with the outcome of their last run.
* `Coherent`, `Stands`: what holds of all of them.
* `Host.IsChecked`: a run begins with a check of the line before which the program stands.

## Main results

* `Coherent.tick`, `Coherent.run`: a tick keeps `Coherent`, and so does a run.
* `Coherent.after_keeps`, `Coherent.run_keeps`: what every tick of a session keeps holds later.
* `session_coherent`, `session_stands`: sessions are coherent, and stand where their last run
  says.
-/

namespace LineBasic

/-! ## Commands between runs -/

/-- A command to the debugger, or to the program through it. -/
inductive Control where
  | pause
  | resume
  | step (mode : StepMode)
  | setSpeed (speed : Nat)
  | setBreakOnError (on : Bool)
  | addBreakpoint (line : Nat) (condition : Option String)
  | removeBreakpoint (line : Nat)
  | toggleBreakpoint (line : Nat)
  | clearBreakpoints
  | importBreakpoints (entries : List BreakpointEntry)
  | eval (expression : String)
  | exec (statement : String)
  | writeVariables (vars : Variables)
  | takeOutput
  | reset
  | restart
  | detach
  | subscribe
  | unsubscribe (id : ListenerId)

namespace Control

/-- What a command makes of the debugger. -/
@[simp] def apply (d : Debugger Machine) : Control → Debugger Machine
  | pause => d.pause
  | resume => d.resume
  | step mode => d.beginStep mode
  | setSpeed speed => d.setSpeed speed
  | setBreakOnError on => d.setBreakOnError on
  | addBreakpoint line condition => (d.addBreakpoint line condition).2
  | removeBreakpoint line => (d.removeBreakpoint line).2
  | toggleBreakpoint line => (d.toggleBreakpoint line).2
  | clearBreakpoints => d.clearBreakpoints
  | importBreakpoints entries => d.importBreakpoints entries
  | eval expression => (d.eval expression).2
  | exec statement => (d.exec statement).2
  | writeVariables vars => { d with runtime := Debuggee.setVariables d.runtime vars }
  | takeOutput => { d with runtime := d.runtime.takeOutput.2 }
  | reset => d.reset
  | restart => d.start
  | detach => d.detach
  | subscribe => d.subscribe.2
  | unsubscribe id => (d.unsubscribe id).2

end Control

/-- The host after a command. -/
def Host.command (h : Host) (c : Control) : Host := h.withDebugger (c.apply h.debugger)

/-- A stop on entry is a step into the first line. -/
theorem Host.start_true (h : Host) :
    h.start true = (h.start false).command (.step .intoCalls) := rfl

/-- The host after some commands, one after the other. -/
def Host.commands (h : Host) (cs : List Control) : Host := cs.foldl Host.command h

@[simp] theorem Host.commands_append (h : Host) (cs cs' : List Control) :
    h.commands (cs ++ cs') = (h.commands cs).commands cs' := List.foldl_append

/-- The hosts of a session of a program, with the outcome of the last run since the last start. -/
inductive DebugSession (program : Program) : Host → Option RunOutcome → Prop where
  | load : DebugSession program (Host.ofProgram program) none
  | start {h : Host} {last : Option RunOutcome} (session : DebugSession program h last)
      (stopOnEntry : Bool) : DebugSession program (h.start stopOnEntry) none
  | command {h : Host} {last : Option RunOutcome} (session : DebugSession program h last)
      (c : Control) : DebugSession program (h.command c) last
  | run {h h' : Host} {last : Option RunOutcome} {fuel : Nat} {o : RunOutcome}
      (session : DebugSession program h last) (result : h.run fuel = some (h', o)) :
      DebugSession program h' (some o)

/-! ## Marks that point to a place -/

namespace Debugger

/-- A pause that is asked for is asked of a paused program, or of one that has no line to pass
over. -/
def PausesOnly (d : Debugger Machine) : Prop :=
  ∀ request, d.runtime.stop = some request →
    request = .pause ∧ (d.skipBreakpoint = none ∨ d.state = .paused)

/-- Without a run to follow, no line is waited for. -/
def SleepsFree (d : Debugger Machine) : Prop := d.state = .idle → d.throttledLine = none

/-- The pace is that of the speed. -/
def Paced (d : Debugger Machine) : Prop := d.pace = Pace.ofSpeed d.speed

/-- What no command between runs changes, and what each of them keeps. -/
structure Kept (d d' : Debugger Machine) : Prop where
  tests : d'.conditionTest = d.conditionTest
  current : d'.currentLine = d.currentLine
  pc : d'.runtime.process.pc = d.runtime.process.pc
  calls : d'.runtime.process.calls = d.runtime.process.calls
  throttled : d'.throttledLine = d.throttledLine ∨ d'.throttledLine = none
  pauses : d.PausesOnly → d'.PausesOnly
  sleeps : d.SleepsFree → d'.SleepsFree
  paced : d.Paced → d'.Paced

variable {d d' : Debugger Machine}

theorem kept_refl (d : Debugger Machine) : d.Kept d := ⟨rfl, rfl, rfl, rfl, .inl rfl, id, id, id⟩

theorem pausesOnly_of_none (h : d.runtime.stop = none) : d.PausesOnly := by
  intro request hrequest
  rw [h] at hrequest
  cases hrequest

/-- A request for a pause on top of pauses is one. -/
theorem merge_pause {stop : Option StopRequest} (h : ∀ request, stop = some request →
    request = .pause) : StopRequest.merge stop .pause = .pause := by
  cases stop with
  | none => rfl
  | some request =>
      rw [h request rfl]
      rfl

theorem kept_pause (d : Debugger Machine) : d.Kept d.pause := by
  unfold pause
  rw [pauseWith_eq]
  refine ⟨rfl, rfl, rfl, rfl, .inl rfl, ?_, ?_, id⟩
  · intro h request hrequest
    refine ⟨?_, .inr rfl⟩
    cases hrequest
    exact merge_pause fun r hr => (h r hr).1
  · intro h hidle
    cases hidle

theorem kept_resume (d : Debugger Machine) : d.Kept d.resume := by
  rw [resume_eq]
  refine ⟨rfl, rfl, rfl, rfl, .inl rfl, fun _ => pausesOnly_of_none rfl, ?_, id⟩
  intro h hidle
  cases hidle

theorem kept_beginStep (d : Debugger Machine) (mode : StepMode) : d.Kept (d.beginStep mode) := by
  by_cases hidle : d.state = .idle
  · rw [beginStep_of_idle hidle]
    exact kept_refl d
  · rw [beginStep_eq hidle]
    refine ⟨rfl, rfl, rfl, rfl, .inl rfl, fun _ => pausesOnly_of_none rfl, ?_, id⟩
    intro h hasleep
    cases hasleep

theorem kept_start (d : Debugger Machine) : d.Kept d.start := by
  rw [start_eq]
  refine ⟨rfl, rfl, rfl, rfl, .inr rfl, ?_, fun _ _ => rfl, id⟩
  intro h request hrequest
  exact ⟨(h request hrequest).1, .inl rfl⟩

theorem kept_reset (d : Debugger Machine) : d.Kept d.reset := by
  rw [reset_eq]
  refine ⟨rfl, rfl, rfl, rfl, .inr rfl, ?_, fun _ _ => rfl, id⟩
  intro h request hrequest
  exact ⟨(h request hrequest).1, .inl rfl⟩

theorem kept_atPause {α : Type} (d : Debugger Machine) (purpose : String)
    (snippet : Variables → Answer α) : d.Kept (d.atPause purpose snippet).2 := by
  unfold atPause
  split
  · exact kept_refl d
  · split
    · exact kept_refl d
    · exact ⟨rfl, rfl, rfl, rfl, .inl rfl, id, id, id⟩

theorem kept_apply (d : Debugger Machine) (c : Control) : d.Kept (c.apply d) := by
  cases c with
  | pause => exact kept_pause d
  | resume => exact kept_resume d
  | step mode => exact kept_beginStep d mode
  | eval expression => exact kept_atPause d _ _
  | exec statement => exact kept_atPause d _ _
  | reset => exact kept_reset d
  | restart => exact kept_start d
  | setSpeed speed => exact ⟨rfl, rfl, rfl, rfl, .inl rfl, id, id, fun _ => rfl⟩
  | setBreakOnError | addBreakpoint | removeBreakpoint | toggleBreakpoint
  | clearBreakpoints | importBreakpoints | writeVariables | takeOutput | detach | subscribe
  | unsubscribe => exact ⟨rfl, rfl, rfl, rfl, .inl rfl, id, id, id⟩

/-! ## Marks under the line hook -/

variable {line : LineId}

/-- The console's conditions can write variables and print, and nothing else. -/
theorem tested_evaluator (tests : d.conditionTest = some evaluatorTest) (line : LineId) :
    ∃ vars output, d.tested line =
      { d.runtime with
        process := { d.runtime.process with vars := vars, output := output } } := by
  unfold tested
  split
  · next bp hbp =>
      split
      · unfold testCondition
        rw [tests]
        cases bp.condition with
        | none => exact ⟨_, _, rfl⟩
        | some text => exact ⟨_, _, rfl⟩
      · exact ⟨_, _, rfl⟩
  · exact ⟨_, _, rfl⟩

theorem keepsPlace_evaluator (tests : d.conditionTest = some evaluatorTest) : d.KeepsPlace := by
  intro line
  obtain ⟨vars, output, htested⟩ := tested_evaluator tests line
  rw [htested]

theorem looks_conditionTest (h : Looks d line d') : d'.conditionTest = d.conditionTest := by
  cases h <;> rfl

theorem looks_currentLine (h : Looks d line d') : d'.currentLine = line := by
  cases h <;> rfl

theorem looks_paced (paced : d.Paced) (h : Looks d line d') : d'.Paced := by
  cases h <;> exact paced

theorem looks_sleeps (sleeps : d.SleepsFree) (h : Looks d line d') : d'.SleepsFree := by
  cases h with
  | idle => exact sleeps
  | waits active =>
      intro hidle
      exact absurd hidle active
  | reentry | broken | stepped | resumed | halted | runs => exact fun _ => rfl

/-- After a look the debugger waits for the line that it has looked at, if for any. -/
theorem looks_throttledLine (sleeps : d.SleepsFree) (h : Looks d line d') :
    d'.throttledLine = none ∨ d'.throttledLine = some line := by
  cases h with
  | idle active => exact .inl (sleeps active)
  | waits => exact .inr rfl
  | reentry | broken | stepped | resumed | halted | runs => exact .inl rfl

/-- A line that the program runs on without a stop is not waited for. -/
theorem looks_free (sleeps : d.SleepsFree) (free : d'.runtime.stop = none)
    (h : Looks d line d') : d'.throttledLine = none := by
  cases h with
  | idle active => exact sleeps active
  | waits => cases free
  | reentry | broken | stepped | resumed | halted | runs => rfl

end Debugger

/-! ## Coherent hosts -/

open Debugger in
/-- What holds of a host at any moment of a session. -/
structure Coherent (program : Program) (h : Host) : Prop where
  program : h.program = program
  tests : h.debugger.conditionTest = some evaluatorTest
  sleeps : h.debugger.SleepsFree
  pauses : h.debugger.PausesOnly
  paced : h.debugger.Paced
  /-- The line that is waited for is the one before which the program stands. -/
  throttled : ∀ id, h.debugger.throttledLine = some id →
    ∃ line, h.process.IsBefore h.program line ∧ id = .number line.number

/-- The program stands before a line that the line hook checks when the run goes on. -/
def Host.IsChecked (h : Host) : Prop :=
  ∃ line, h.process.IsBefore h.program line ∧
    h.debugger.throttledLine ≠ some (.number line.number)

/-- On a line, the line hook checks it unless the program goes on inside the line or from a wait. -/
theorem Host.isChecked_iff {h : Host} {line : SourceLine}
    (found : h.program.get? h.process.pc.line = some line) :
    h.IsChecked ↔ h.process.pc.statement = 0 ∧
      h.debugger.throttledLine ≠ some (.number line.number) := by
  constructor
  · rintro ⟨line', hbefore, hother⟩
    obtain rfl : line' = line := Option.some.inj (hbefore.found.symm.trans found)
    exact ⟨hbefore.first, hother⟩
  · rintro ⟨hfirst, hother⟩
    exact ⟨line, ⟨found, hfirst⟩, hother⟩

/-- Where a host stands, by the outcome of its last run. -/
def Stands (h : Host) : Option RunOutcome → Prop
  | none => h.finished = true ∨ (h.process.pc = .first ∧ h.debugger.throttledLine = none)
  | some (.stopped ..) =>
      ∃ line, h.program.get? h.process.pc.line = some line ∧
        h.debugger.currentLine = .number line.number
  | some _ => h.finished = true

namespace Coherent

open Debugger Host

variable {program : Program} {h x : Host} {line : SourceLine}

theorem keepsPlace (hc : Coherent program h) : h.debugger.KeepsPlace :=
  keepsPlace_evaluator hc.tests

/-- Inside a line there is no line to wait for. -/
theorem throttledLine_inside (hc : Coherent program h) (inside : h.process.pc.statement ≠ 0) :
    h.debugger.throttledLine = none := by
  cases hthrottled : h.debugger.throttledLine with
  | none => rfl
  | some id =>
      obtain ⟨line, hbefore, -⟩ := hc.throttled id hthrottled
      exact absurd hbefore.first inside

/-- A command keeps a host coherent. -/
theorem kept {d : Debugger Machine} (hc : Coherent program h) (hkept : h.debugger.Kept d) :
    Coherent program (h.withDebugger d) where
  program := hc.program
  tests := hkept.tests.trans hc.tests
  sleeps := hkept.sleeps hc.sleeps
  pauses := hkept.pauses hc.pauses
  paced := hkept.paced hc.paced
  throttled := by
    intro id hid
    rcases hkept.throttled with hsame | hnone
    · obtain ⟨line, hbefore, hline⟩ := hc.throttled id (hsame.symm.trans hid)
      exact ⟨line, hbefore.of_pc hkept.pc, hline⟩
    · cases (hnone.symm.trans hid : none = some id)

/-- A host that is about to run a statement is coherent, and waits for no line. -/
theorem enters {v : Host} (hc : Coherent program h) (henters : h.Enters line v) :
    Coherent program v ∧ v.debugger.throttledLine = none := by
  cases henters with
  | inside found inside => exact ⟨hc, hc.throttledLine_inside inside⟩
  | visited before free =>
      have hlooks := looks_onLine h.debugger (.number line.number)
      rw [visit_of_first before.first] at free ⊢
      have hnone := looks_free hc.sleeps free hlooks
      refine ⟨⟨hc.program, (looks_conditionTest hlooks).trans hc.tests, fun _ => hnone,
        pausesOnly_of_none free, looks_paced hc.paced hlooks, ?_⟩, hnone⟩
      intro id hid
      cases (hnone.symm.trans hid : none = some id)

/-- The end of a run leaves no marks. -/
theorem finish (hc : Coherent program h) : Coherent program h.finish := by
  rw [finish_eq]
  refine ⟨hc.program, hc.tests, fun _ => rfl, pausesOnly_of_none rfl, hc.paced, ?_⟩
  intro id hid
  cases hid

/-- A host that waits for no line stays coherent wherever its program moves. -/
theorem moved (hc : Coherent program h) (unthrottled : h.debugger.throttledLine = none)
    (p : Process) : Coherent program (h.withProcess p) := by
  refine ⟨hc.program, hc.tests, hc.sleeps, hc.pauses, hc.paced, ?_⟩
  intro id hid
  cases (unthrottled.symm.trans hid : none = some id)

/-- A fault leaves a host coherent, whether it ends the run or pauses it. -/
theorem faults {number : Nat} {f : Fault} {r : Host × RunOutcome} (hc : Coherent program h)
    (unthrottled : h.debugger.throttledLine = none) (hfaults : h.Faults number f r) :
    Coherent program r.1 := by
  cases hfaults with
  | fails => exact hc.finish
  | trapped on bus =>
      refine ⟨hc.program, hc.tests, ?_, pausesOnly_of_none rfl, hc.paced, ?_⟩
      · intro hasleep
        cases hasleep
      · intro id hid
        cases (unthrottled.symm.trans hid : none = some id)

theorem executes {r : Host × Option RunOutcome} (hc : Coherent program h)
    (unthrottled : h.debugger.throttledLine = none) (hexecutes : h.Executes line r) :
    Coherent program r.1 := by
  cases hexecutes with
  | goesOn p step => exact hc.moved unthrottled p
  | ends p step => exact (hc.moved unthrottled p).finish
  | faults p f step r result => exact (hc.moved unthrottled p).faults unthrottled result

/-- A tick keeps a host coherent. -/
theorem tick (hc : Coherent program h) : Coherent program h.tick.1 := by
  have hticks := ticks_tick hc.keepsPlace
  generalize h.tick = r at hticks
  cases hticks with
  | past isOver => exact hc.finish
  | stops line before request asked =>
      have hlooks := looks_onLine h.debugger (.number line.number)
      rw [visit_of_first before.first]
      have hpc := looks_pc hc.keepsPlace hlooks
      have hsleeps := looks_sleeps hc.sleeps hlooks
      have hpaced := looks_paced hc.paced hlooks
      refine ⟨hc.program, (looks_conditionTest hlooks).trans hc.tests, hsleeps,
        pausesOnly_of_none rfl, hpaced, ?_⟩
      intro id hid
      rcases looks_throttledLine hc.sleeps hlooks with hnone | hline
      · cases (hnone.symm.trans hid : none = some id)
      · exact ⟨line, before.of_pc hpc, Option.some.inj (hid.symm.trans hline)⟩
  | runs line v henters =>
      obtain ⟨hv, hnone⟩ := hc.enters henters
      exact hv.executes hnone (executes_execute v line)

theorem after {n : Nat} (hc : Coherent program h) (reach : h.after n = some x) :
    Coherent program x := after_of_tick tick hc reach

theorem run {h' : Host} {fuel : Nat} {o : RunOutcome} (hc : Coherent program h)
    (result : h.run fuel = some (h', o)) : Coherent program h' := run_of_tick tick hc result

section Kept

variable {P : Host → Prop} (htick : ∀ {g : Host}, Coherent program g → P g → P g.tick.1)

include htick

/-- What a tick of a session keeps is kept by all of them. -/
theorem after_keeps {n : Nat} (hc : Coherent program h) (hP : P h) (reach : h.after n = some x) :
    P x :=
  (after_of_tick (P := fun g => Coherent program g ∧ P g)
    (fun hg => ⟨hg.1.tick, htick hg.1 hg.2⟩) ⟨hc, hP⟩ reach).2

/-- What a tick of a session keeps is kept by a run. -/
theorem run_keeps {h' : Host} {fuel : Nat} {o : RunOutcome} (hc : Coherent program h) (hP : P h)
    (result : h.run fuel = some (h', o)) : P h' :=
  (run_of_tick (P := fun g => Coherent program g ∧ P g)
    (fun hg => ⟨hg.1.tick, htick hg.1 hg.2⟩) ⟨hc, hP⟩ result).2

end Kept

/-- A new run starts coherent, at the first line. -/
theorem start (hc : Coherent program h) (stopOnEntry : Bool) :
    Coherent program (h.start stopOnEntry) := by
  have hfresh : Coherent program (h.start false) := by
    rw [start_false]
    refine ⟨hc.program, hc.tests, fun _ => rfl, pausesOnly_of_none rfl, hc.paced, ?_⟩
    intro id hid
    cases hid
  cases stopOnEntry with
  | false => exact hfresh
  | true => exact hfresh.kept (kept_beginStep _ .intoCalls)

end Coherent

/-! ## Sessions are coherent -/

open Debugger Host

variable {program : Program} {h : Host} {last : Option RunOutcome}

/-- Commands do not move the program. -/
@[simp] theorem Host.commands_pc (h : Host) (cs : List Control) :
    (h.commands cs).process.pc = h.process.pc := by
  induction cs generalizing h with
  | nil => rfl
  | cons c rest ih => exact (ih (h.command c)).trans (kept_apply h.debugger c).pc

@[simp] theorem Host.commands_finished (h : Host) (cs : List Control) :
    (h.commands cs).finished = h.finished := by
  induction cs generalizing h with
  | nil => rfl
  | cons c rest ih => exact ih (h.command c)

/-- Commands go on with a session. -/
theorem session_commands (session : DebugSession program h last) (cs : List Control) :
    DebugSession program (h.commands cs) last := by
  induction cs generalizing h with
  | nil => exact session
  | cons c rest ih => exact ih (session.command c)

theorem coherent_ofProgram (program : Program) : Coherent program (ofProgram program) := by
  refine ⟨rfl, rfl, fun _ => rfl, pausesOnly_of_none rfl, rfl, ?_⟩
  intro id hid
  cases hid

theorem session_coherent (session : DebugSession program h last) : Coherent program h := by
  induction session with
  | load => exact coherent_ofProgram program
  | start session stopOnEntry ih => exact ih.start stopOnEntry
  | command session c ih => exact ih.kept (kept_apply _ c)
  | run session result ih => exact ih.run result

/-- A command does not move a host. -/
theorem Stands.command (hs : Stands h last) (c : Control) : Stands (h.command c) last := by
  have hkept := kept_apply h.debugger c
  cases last with
  | none =>
      rcases hs with hfinished | ⟨hpc, hnone⟩
      · exact .inl hfinished
      · refine .inr ⟨hkept.pc.trans hpc, ?_⟩
        rcases hkept.throttled with hsame | hclear
        · exact hsame.trans hnone
        · exact hclear
  | some o =>
      cases o with
      | finished => exact hs
      | failed f => exact hs
      | stopped id reason delay =>
          obtain ⟨line, hfound, hcurrent⟩ := hs
          refine ⟨line, ?_, hkept.current.trans hcurrent⟩
          show h.program.get? (c.apply h.debugger).runtime.process.pc.line = some line
          rw [hkept.pc]
          exact hfound

/-- The outcome of a tick says where the host stands. -/
theorem stands_tick {x : Host} {o : RunOutcome} (hc : Coherent program h)
    (tick : h.tick = (x, some o)) : Stands x (some o) := by
  have hticks := ticks_tick hc.keepsPlace
  generalize hr : h.tick = r at hticks
  rw [hr] at tick
  cases hticks with
  | past isOver =>
      cases tick
      rfl
  | stops line before request asked =>
      have hlooks := looks_onLine h.debugger (.number line.number)
      cases tick
      rw [visit_of_first before.first]
      have hcurrent := looks_currentLine hlooks
      exact ⟨line, (before.of_pc (looks_pc hc.keepsPlace hlooks)).found, hcurrent⟩
  | runs line v henters =>
      have hfound := enters_found hc.keepsPlace henters
      have hexecutes := executes_execute v line
      rw [tick] at hexecutes
      cases hexecutes with
      | ends p step => rfl
      | faults p f step r result =>
          obtain ⟨g, o⟩ := r
          cases result with
          | fails => rfl
          | trapped on bus =>
              refine ⟨line, ?_, rfl⟩
              show v.program.get? p.pc.line = some line
              rw [Process.step_fails_pc step]
              exact hfound

theorem session_stands (session : DebugSession program h last) : Stands h last := by
  induction session with
  | load => exact .inl rfl
  | @start h _ session stopOnEntry ih =>
      refine .inr ?_
      have hfresh : (h.start false).process.pc = .first ∧
          (h.start false).debugger.throttledLine = none := by
        rw [start_false]
        exact ⟨rfl, rfl⟩
      cases stopOnEntry with
      | false => exact hfresh
      | true =>
          have hkept := kept_beginStep (h.start false).debugger .intoCalls
          refine ⟨hkept.pc.trans hfresh.1, ?_⟩
          rcases hkept.throttled with hsame | hclear
          · exact hsame.trans hfresh.2
          · exact hclear
  | command session c ih => exact ih.command c
  | run session result ih =>
      have hc := session_coherent session
      rcases run_eq_some result with ⟨hfinished, rfl, rfl⟩ | ⟨-, i, x, hreach, hx⟩
      · exact hfinished
      · exact stands_tick (hc.after hreach) hx

/-- A run that has stopped and is not over stands on the current line. -/
theorem currentLine_of_stopped {line : SourceLine} (session : DebugSession program h last)
    (running : h.finished = false) (stopped : last ≠ none)
    (found : h.program.get? h.process.pc.line = some line) :
    h.debugger.currentLine = .number line.number := by
  have hstands := session_stands session
  cases last with
  | none => exact absurd rfl stopped
  | some o =>
      cases o with
      | finished => cases running.symm.trans hstands
      | failed f => cases running.symm.trans hstands
      | stopped id reason delay =>
          obtain ⟨line', hfound, hcurrent⟩ := hstands
          obtain rfl : line' = line := Option.some.inj (hfound.symm.trans found)
          exact hcurrent

end LineBasic
