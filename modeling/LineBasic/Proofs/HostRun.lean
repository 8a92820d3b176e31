import LineBasic.Proofs.FaultPlace
import LineBasic.Proofs.LineHook
import LineBasic.Proofs.PlainRun

/-!
# Runs of a program under the debugger

A tick of the host comes to one of four results.  The program is past its last line, or a stop is
asked for before a line, or the next statement runs and the program goes on or ends, or that
statement fails.  `Ticks` and `Executes` list them, and everything about runs is read off these
lists.

A throttled run stops again and again only to wait.  `RunsOn` joins such runs to one, and counts the
steps of the program in it.

## Main definitions

* `Enters`, `Executes`, `Ticks`: the results of a tick.
* `Host.after`: the host after a number of ticks without an outcome.
* `Host.RunsOn`: a run continued over all waits.

## Main results

* `ticks_tick`: the results are complete.
* `after_of_tick`, `run_of_tick`: a property that every tick keeps holds behind any number of them.
* `runsOn_iff`: a continued run, tick by tick.
-/

namespace LineBasic

/-! ## What a look at a line leaves alone -/

namespace Debugger

variable {d d' : Debugger Machine} {line : LineId}

/-- Testing a condition does not move the program. -/
def KeepsPlace (d : Debugger Machine) : Prop :=
  ∀ line, (d.tested line).process.pc = d.runtime.process.pc

/-- A look leaves the process as it is, or as the test of a condition leaves it. -/
theorem looks_process (h : Looks d line d') :
    d'.runtime.process = d.runtime.process ∨
      d'.runtime.process = (d.tested line).process := by
  cases h with
  | idle | reentry | resumed => exact .inl rfl
  | broken | halted | waits | runs => exact .inr rfl
  | stepped active arrived runtime unbroken =>
      cases unbroken with
      | marked => exact .inl rfl
      | missed => exact .inr rfl

theorem looks_pc (hkeeps : d.KeepsPlace) (h : Looks d line d') :
    d'.runtime.process.pc = d.runtime.process.pc := by
  rcases looks_process h with hsame | htested
  · rw [hsame]
  · rw [htested]
    exact hkeeps line

/-- A look does not put an active debugger to sleep. -/
theorem looks_state (h : Looks d line d') : d'.state = .idle ↔ d.state = .idle := by
  cases h with
  | idle active => exact Iff.rfl
  | reentry | resumed | waits | runs => exact Iff.rfl
  | broken active | stepped active | halted active =>
      constructor
      · intro h
        cases h
      · intro h
        exact absurd h active

end Debugger

/-- An outcome after which the program goes on by itself. -/
def RunOutcome.isWait : RunOutcome → Bool
  | .stopped _ .throttle _ => true
  | _ => false

namespace Host

open Debugger

variable {h v x y h' : Host} {line : SourceLine}

/-! ## Parts of a tick -/

/-- The host with its program in another state. -/
def withProcess (h : Host) (p : Process) : Host := h.withMachine { h.machine with process := p }

@[simp] theorem withProcess_process (h : Host) (p : Process) : (h.withProcess p).process = p := rfl

/-- How a fault that a statement raised on a line ends a run. -/
inductive Faults (h : Host) (number : Nat) (f : Fault) : Host × RunOutcome → Prop where
  /-- The program fails. -/
  | fails : Faults h number f (h.finish, .failed (f.atLine (.number number)))
  /-- The debugger takes the fault and pauses the program on the statement that raised it. -/
  | trapped (on : h.debugger.breakOnError = true) (bus : EventBus Event) :
      Faults h number f
        (h.withDebugger
          { h.debugger with
            lastError := some (ErrorInfo.ofFault (f.atLine (.number number)) (.number number)),
            currentLine := .number number, stepMode := none, state := .paused,
            runtime := { h.machine with stop := none }, events := bus },
          .stopped (.number number) .pause 0)

theorem faults_handleFault (h : Host) (number : Nat) {f : Fault} (place : f.line = none) :
    h.Faults number f (h.handleFault number f) := by
  have hline : (f.atLine (.number number)).line = some (.number number) := by
    unfold Fault.atLine
    rw [place]
    rfl
  unfold handleFault
  dsimp only
  rw [hline]
  cases htrap : h.machine.errorTrap with
  | false => exact .fails
  | true =>
      rw [if_pos rfl]
      have hreceives := receives_handleError h.debugger (f.atLine (.number number))
      generalize h.debugger.handleError (f.atLine (.number number)) = r at hreceives
      cases hreceives with
      | ignored | passed => exact .fails
      | taken on =>
          rw [pauseWith_eq]
          unfold faulted
          rw [hline]
          exact .trapped on _

/-- What running a statement on a line comes to. -/
inductive Executes (h : Host) (line : SourceLine) : Host × Option RunOutcome → Prop where
  | goesOn (p : Process) (step : h.process.step h.program line = (p, .goesOn)) :
      Executes h line (h.withProcess p, none)
  | ends (p : Process) (step : h.process.step h.program line = (p, .ends)) :
      Executes h line ((h.withProcess p).finish, some .finished)
  | faults (p : Process) (f : Fault) (step : h.process.step h.program line = (p, .fails f))
      (r : Host × RunOutcome) (result : (h.withProcess p).Faults line.number f r) :
      Executes h line (r.1, some r.2)

theorem executes_execute (h : Host) (line : SourceLine) : h.Executes line (h.execute line) := by
  unfold execute
  split
  next p stepEnd hstep =>
    cases stepEnd with
    | goesOn => exact .goesOn p hstep
    | ends => exact .ends p hstep
    | fails f =>
        exact .faults p f hstep _ (faults_handleFault _ _ (Process.step_fault_line hstep))

/-- A statement that fails has its fault handled. -/
theorem execute_of_fails {p : Process} {f : Fault}
    (step : h.process.step h.program line = (p, .fails f)) :
    h.execute line = (((h.withProcess p).handleFault line.number f).1,
      some ((h.withProcess p).handleFault line.number f).2) := by
  unfold execute
  rw [step]
  rfl

/-- The program is about to run a statement of a line, with the host as `v`.  Before the first
statement the debugger has looked at the line and not asked for a stop. -/
inductive Enters (h : Host) (line : SourceLine) : Host → Prop where
  | inside (found : h.program.get? h.process.pc.line = some line)
      (inside : h.process.pc.statement ≠ 0) : Enters h line h
  | visited (before : h.process.IsBefore h.program line)
      (free : (h.visit line.number).machine.stop = none) : Enters h line (h.visit line.number)

/-- What a tick comes to. -/
inductive Ticks (h : Host) : Host × Option RunOutcome → Prop where
  | past (isOver : h.program.get? h.process.pc.line = none) : Ticks h (h.finish, some .finished)
  | stops (line : SourceLine) (before : h.process.IsBefore h.program line) (request : StopRequest)
      (asked : (h.visit line.number).machine.stop = some request) :
      Ticks h ((h.visit line.number).takeStop.2,
        some (.stopped (.number line.number) request.reason
          (h.visit line.number).debugger.nextDelay))
  | runs (line : SourceLine) (v : Host) (enters : h.Enters line v) : Ticks h (v.execute line)

@[simp] theorem visit_of_first (first : h.process.pc.statement = 0) (number : Nat) :
    h.visit number = h.withDebugger (h.debugger.onLine (.number number)) := by
  unfold visit
  rw [if_pos first]

/-- A visit leaves the host in its run. -/
theorem visit_parts (h : Host) (number : Nat) :
    (h.visit number).program = h.program ∧ (h.visit number).finished = h.finished := by
  unfold visit
  split <;> exact ⟨rfl, rfl⟩

/-- A visit does not move the program. -/
theorem visit_pc (hkeeps : h.debugger.KeepsPlace) (number : Nat) :
    (h.visit number).process.pc = h.process.pc := by
  unfold visit
  split
  · exact looks_pc hkeeps (looks_onLine _ _)
  · rfl

/-- A host that is about to run a statement of a line stands on that line. -/
theorem enters_found (hkeeps : h.debugger.KeepsPlace) (enters : h.Enters line v) :
    v.program.get? v.process.pc.line = some line := by
  cases enters with
  | inside found inside => exact found
  | visited before free =>
      rw [visit_pc hkeeps, visit_of_first before.first]
      exact before.found

/-- A host that is about to run a statement is as far in its run as before. -/
theorem enters_finished (enters : h.Enters line v) : v.finished = h.finished := by
  cases enters with
  | inside => rfl
  | visited => exact (visit_parts h line.number).2

theorem enters_program (enters : h.Enters line v) : v.program = h.program := by
  cases enters with
  | inside => rfl
  | visited => exact (visit_parts h line.number).1

theorem enters_pc (hkeeps : h.debugger.KeepsPlace) (enters : h.Enters line v) :
    v.process.pc = h.process.pc := by
  cases enters with
  | inside => rfl
  | visited => exact visit_pc hkeeps line.number

/-- Taking a request when there is none changes nothing. -/
@[simp] theorem takeStop_of_none (free : h.machine.stop = none) : h.takeStop = (none, h) := by
  unfold takeStop Machine.takeStop
  rw [free]
  refine congrArg (Prod.mk none) ?_
  unfold withMachine
  rw [← free]
  rfl

@[simp] theorem tick_of_past (isOver : h.program.get? h.process.pc.line = none) :
    h.tick = (h.finish, some .finished) := by
  unfold tick
  rw [isOver]

theorem tick_of_stop (hkeeps : h.debugger.KeepsPlace) (before : h.process.IsBefore h.program line)
    {request : StopRequest} (asked : (h.visit line.number).machine.stop = some request) :
    h.tick = ((h.visit line.number).takeStop.2,
      some (.stopped (.number line.number) request.reason
        (h.visit line.number).debugger.nextDelay)) := by
  have hfirst : (h.visit line.number).process.pc.statement = 0 := by
    rw [visit_pc hkeeps]
    exact before.first
  have hstop : (h.visit line.number).takeStop =
      (some request, (h.visit line.number).takeStop.2) := Prod.ext asked rfl
  unfold tick
  rw [before.found]
  dsimp only
  rw [if_pos hfirst, hstop]
  rfl

/-- The line hook asks for a pause, and the program pauses before the line. -/
theorem tick_of_pause (hkeeps : h.debugger.KeepsPlace) (before : h.process.IsBefore h.program line)
    (asked : (h.debugger.onLine (.number line.number)).runtime.stop = some .pause)
    (undelayed : (h.debugger.onLine (.number line.number)).nextDelay = 0) :
    h.tick = ((h.withDebugger (h.debugger.onLine (.number line.number))).takeStop.2,
      some (.stopped (.number line.number) .pause 0)) := by
  have hvisit := visit_of_first before.first line.number
  have hasked : (h.visit line.number).machine.stop = some .pause := by
    rw [hvisit]
    exact asked
  have hzero : (h.visit line.number).debugger.nextDelay = 0 := by
    rw [hvisit]
    exact undelayed
  rw [tick_of_stop hkeeps before hasked, hzero, hvisit]
  rfl

theorem tick_of_enters (hkeeps : h.debugger.KeepsPlace) (enters : h.Enters line v) :
    h.tick = v.execute line := by
  cases enters with
  | inside found inside =>
      have hvisit : h.visit line.number = h := by
        unfold visit
        rw [if_neg inside]
      unfold tick
      rw [found]
      dsimp only
      rw [hvisit, if_neg inside]
  | visited before free =>
      have hfirst : (h.visit line.number).process.pc.statement = 0 := by
        rw [visit_pc hkeeps]
        exact before.first
      unfold tick
      rw [before.found]
      dsimp only
      rw [if_pos hfirst, takeStop_of_none free]

/-- Coming back to the line that it waited before, the program runs on at once. -/
theorem enters_waited (active : h.debugger.state ≠ .idle)
    (before : h.process.IsBefore h.program line)
    (waited : h.debugger.throttledLine = some (.number line.number))
    (free : h.machine.stop = none) :
    h.Enters line (h.withDebugger (h.debugger.noted (.number line.number))) := by
  have hvisit : h.visit line.number =
      h.withDebugger (h.debugger.noted (.number line.number)) := by
    rw [visit_of_first before.first]
    exact congrArg h.withDebugger (looks_waited active waited (looks_onLine _ _))
  rw [← hvisit]
  refine .visited before ?_
  rw [hvisit]
  exact free

/-- The results of a tick are complete. -/
theorem ticks_tick (hkeeps : h.debugger.KeepsPlace) : h.Ticks h.tick := by
  cases hfound : h.program.get? h.process.pc.line with
  | none =>
      rw [tick_of_past hfound]
      exact .past hfound
  | some line =>
      by_cases hfirst : h.process.pc.statement = 0
      · have hbefore : h.process.IsBefore h.program line := ⟨hfound, hfirst⟩
        cases hstop : (h.visit line.number).machine.stop with
        | none =>
            rw [tick_of_enters hkeeps (.visited hbefore hstop)]
            exact .runs line _ (.visited hbefore hstop)
        | some request =>
            rw [tick_of_stop hkeeps hbefore hstop]
            exact .stops line hbefore request hstop
      · rw [tick_of_enters hkeeps (.inside hfound hfirst)]
        exact .runs line h (.inside hfound hfirst)

/-! ## Counted runs -/

/-- A statement without an outcome leaves the host in its run. -/
theorem execute_none (result : h.execute line = (x, none)) :
    x.program = h.program ∧ x.finished = h.finished := by
  have hexecutes := executes_execute h line
  rw [result] at hexecutes
  cases hexecutes with
  | goesOn p => exact ⟨rfl, rfl⟩

/-- A tick without an outcome leaves the host in its run. -/
theorem tick_none (tick : h.tick = (x, none)) :
    x.program = h.program ∧ x.finished = h.finished := by
  unfold Host.tick at tick
  split at tick
  · cases tick
  · next line hline =>
      obtain ⟨hprogram, hfinished⟩ := visit_parts h line.number
      dsimp only at tick
      split at tick
      · cases tick
      · obtain ⟨hprogram', hfinished'⟩ := execute_none tick
        rw [hprogram', hfinished', ← hprogram, ← hfinished]
        split <;> exact ⟨rfl, rfl⟩

/-- The host after `n` ticks; none if it has come to an outcome by then. -/
def after : Nat → Host → Option Host
  | 0, h => some h
  | n + 1, h =>
      match h.tick with
      | (x, none) => after n x
      | (_, some _) => none

/-- A property that every tick without an outcome keeps holds after any number of them. -/
theorem after_induction {P : Host → Prop} (htick : ∀ {g x : Host}, P g → g.tick = (x, none) → P x)
    {n : Nat} (hP : P h) (reach : h.after n = some x) : P x := by
  induction n generalizing h with
  | zero =>
      cases reach
      exact hP
  | succ n ih =>
      rw [after] at reach
      split at reach
      · next g hg => exact ih (htick hP hg) reach
      · cases reach

/-- A property that every tick keeps holds after any number of them. -/
theorem after_of_tick {P : Host → Prop} (htick : ∀ {g : Host}, P g → P g.tick.1) {n : Nat}
    (hP : P h) (reach : h.after n = some x) : P x := by
  refine after_induction ?_ hP reach
  intro g y hg hy
  have hnext := htick hg
  rw [hy] at hnext
  exact hnext

theorem after_finished {n : Nat} (reach : h.after n = some x) : x.finished = h.finished := by
  refine after_induction (P := fun g => g.finished = h.finished) ?_ rfl reach
  intro g y hg htick
  exact (tick_none htick).2.trans hg

/-- A run goes on from where it is after some ticks. -/
theorem runFor_add {i : Nat} (reach : h.after i = some x) (n : Nat) :
    h.runFor (i + n) = x.runFor n := by
  induction i generalizing h with
  | zero =>
      cases reach
      rw [Nat.zero_add]
  | succ i ih =>
      rw [after] at reach
      rw [Nat.succ_add, runFor]
      split at reach
      · next g hg =>
          rw [hg]
          exact ih reach
      · cases reach

/-- A run is a number of ticks without an outcome, and one with an outcome. -/
theorem runFor_eq_some {fuel : Nat} {o : RunOutcome} (run : h.runFor fuel = some (h', o)) :
    ∃ i x, h.after i = some x ∧ x.tick = (h', some o) := by
  induction fuel generalizing h with
  | zero => cases run
  | succ fuel ih =>
      rw [runFor] at run
      split at run
      · next g o' hg =>
          cases run
          exact ⟨0, h, rfl, hg⟩
      · next g hg =>
          obtain ⟨i, x, hreach, hx⟩ := ih run
          refine ⟨i + 1, x, ?_, hx⟩
          rw [after, hg]
          exact hreach

/-- The run of a program that is over changes nothing; any other one ends in its last tick. -/
theorem run_eq_some {fuel : Nat} {o : RunOutcome} (result : h.run fuel = some (h', o)) :
    (h.finished = true ∧ h' = h ∧ o = .finished) ∨
      (h.finished = false ∧ ∃ i x, h.after i = some x ∧ x.tick = (h', some o)) := by
  unfold run at result
  split at result
  · next hfinished =>
      cases result
      exact .inl ⟨hfinished, rfl, rfl⟩
  · next hrunning => exact .inr ⟨Bool.not_eq_true _ ▸ hrunning, runFor_eq_some result⟩

/-- A property that every tick keeps holds behind a run. -/
theorem run_of_tick {P : Host → Prop} (htick : ∀ {g : Host}, P g → P g.tick.1) {fuel : Nat}
    {o : RunOutcome} (hP : P h) (result : h.run fuel = some (h', o)) : P h' := by
  rcases run_eq_some result with ⟨-, rfl, -⟩ | ⟨-, i, x, hreach, hx⟩
  · exact hP
  · have hnext := htick (after_of_tick htick hP hreach)
    rw [hx] at hnext
    exact hnext

/-- A run comes to an outcome, in the tick behind `n` others. -/
def Runs (h : Host) (n : Nat) (h' : Host) (o : RunOutcome) : Prop :=
  h.run n = none ∧ h.run (n + 1) = some (h', o)

@[simp] theorem run_of_unfinished (unfinished : h.finished = false) (n : Nat) : h.run n = h.runFor n := by
  unfold run
  rw [if_neg]
  rw [unfinished]
  exact Bool.false_ne_true

theorem runs_of_tick_none (unfinished : h.finished = false) (tick : h.tick = (x, none)) {n : Nat}
    {o : RunOutcome} : h.Runs n h' o ↔ ∃ m, n = m + 1 ∧ x.Runs m h' o := by
  have hx : x.finished = false := (tick_none tick).2.trans unfinished
  have hsucc : ∀ m, h.runFor (m + 1) = x.runFor m := by
    intro m
    rw [runFor, tick]
  unfold Runs
  simp only [run_of_unfinished unfinished, run_of_unfinished hx]
  constructor
  · rintro ⟨hnone, hsome⟩
    cases n with
    | zero =>
        rw [hsucc] at hsome
        cases hsome
    | succ m => exact ⟨m, rfl, (hsucc m) ▸ hnone, (hsucc (m + 1)) ▸ hsome⟩
  · rintro ⟨m, rfl, hnone, hsome⟩
    exact ⟨(hsucc m).trans hnone, (hsucc (m + 1)).trans hsome⟩

theorem runs_of_tick_some (unfinished : h.finished = false) {o o' : RunOutcome}
    (tick : h.tick = (x, some o')) {n : Nat} : h.Runs n h' o ↔ n = 0 ∧ h' = x ∧ o = o' := by
  have hsucc : ∀ m, h.runFor (m + 1) = some (x, o') := by
    intro m
    rw [runFor, tick]
  unfold Runs
  simp only [run_of_unfinished unfinished]
  constructor
  · rintro ⟨hnone, hsome⟩
    cases n with
    | zero =>
        rw [hsucc] at hsome
        cases hsome
        exact ⟨rfl, rfl, rfl⟩
    | succ m =>
        rw [hsucc] at hnone
        cases hnone
  · rintro ⟨rfl, rfl, rfl⟩
    exact ⟨rfl, hsucc 0⟩

/-- A run continued over all waits for the speed: after `n` steps of the program it comes to an
outcome that is no wait. -/
inductive RunsOn : Host → Nat → Host → RunOutcome → Prop where
  | ends {h h' : Host} {n : Nat} {o : RunOutcome} (run : h.Runs n h' o)
      (settled : o.isWait = false) : RunsOn h n h' o
  | waits {h x h' : Host} {m n : Nat} {wait o : RunOutcome} (run : h.Runs m x wait)
      (waits : wait.isWait = true) (rest : x.RunsOn n h' o) : RunsOn h (m + n) h' o

/-- How a run goes on behind a tick. -/
def Continues : Host × Option RunOutcome → Nat → Host → RunOutcome → Prop
  | (x, none), n, h', o => ∃ m, n = m + 1 ∧ x.RunsOn m h' o
  | (x, some o'), n, h', o => if o'.isWait then x.RunsOn n h' o else n = 0 ∧ h' = x ∧ o = o'

/-- A continued run behind a tick without an outcome. -/
theorem runsOn_of_tick_none (unfinished : h.finished = false) (tick : h.tick = (x, none)) {n : Nat}
    {o : RunOutcome} : h.RunsOn n h' o ↔ ∃ m, n = m + 1 ∧ x.RunsOn m h' o := by
  constructor
  · intro hrun
    cases hrun with
    | ends run settled =>
        obtain ⟨m, rfl, hm⟩ := (runs_of_tick_none unfinished tick).1 run
        exact ⟨m, rfl, .ends hm settled⟩
    | waits run waits rest =>
        obtain ⟨m, rfl, hm⟩ := (runs_of_tick_none unfinished tick).1 run
        exact ⟨_, Nat.succ_add _ _, .waits hm waits rest⟩
  · rintro ⟨m, rfl, hrun⟩
    cases hrun with
    | ends run settled =>
        exact .ends ((runs_of_tick_none unfinished tick).2 ⟨_, rfl, run⟩) settled
    | waits run waits rest =>
        rw [Nat.add_right_comm]
        exact .waits ((runs_of_tick_none unfinished tick).2 ⟨_, rfl, run⟩) waits rest

/-- A run that waits is continued by the run behind the wait. -/
theorem runsOn_of_wait (unfinished : h.finished = false) {wait : RunOutcome}
    (tick : h.tick = (x, some wait)) (waits : wait.isWait = true) {n : Nat} {o : RunOutcome} :
    h.RunsOn n h' o ↔ x.RunsOn n h' o := by
  constructor
  · intro hrun
    cases hrun with
    | ends run settled =>
        obtain ⟨-, -, rfl⟩ := (runs_of_tick_some unfinished tick).1 run
        rw [waits] at settled
        cases settled
    | waits run _ rest =>
        obtain ⟨rfl, rfl, -⟩ := (runs_of_tick_some unfinished tick).1 run
        rw [Nat.zero_add]
        exact rest
  · intro hrun
    rw [← Nat.zero_add n]
    exact .waits ((runs_of_tick_some unfinished tick).2 ⟨rfl, rfl, rfl⟩) waits hrun

/-- A run that comes to an outcome at once. -/
theorem runsOn_of_settled (unfinished : h.finished = false) {result : RunOutcome}
    (tick : h.tick = (x, some result)) (settled : result.isWait = false) {n : Nat}
    {o : RunOutcome} : h.RunsOn n h' o ↔ n = 0 ∧ h' = x ∧ o = result := by
  constructor
  · intro hrun
    cases hrun with
    | ends run _ => exact (runs_of_tick_some unfinished tick).1 run
    | waits run waits rest =>
        obtain ⟨-, -, rfl⟩ := (runs_of_tick_some unfinished tick).1 run
        rw [settled] at waits
        cases waits
  · rintro ⟨rfl, rfl, rfl⟩
    exact .ends ((runs_of_tick_some unfinished tick).2 ⟨rfl, rfl, rfl⟩) settled

/-- A continued run, tick by tick. -/
theorem runsOn_iff (unfinished : h.finished = false) {n : Nat} {o : RunOutcome} :
    h.RunsOn n h' o ↔ Continues h.tick n h' o := by
  obtain ⟨x, hx⟩ : ∃ x, h.tick = x := ⟨_, rfl⟩
  rw [hx]
  obtain ⟨x, none | o'⟩ := x
  · exact runsOn_of_tick_none unfinished hx
  · show h.RunsOn n h' o ↔ if o'.isWait then x.RunsOn n h' o else n = 0 ∧ h' = x ∧ o = o'
    split
    · next hwait => exact runsOn_of_wait unfinished hx hwait
    · next hsettled =>
        rw [Bool.not_eq_true] at hsettled
        exact runsOn_of_settled unfinished hx hsettled

/-- A run that is about to run a statement. -/
theorem runsOn_of_enters (unfinished : h.finished = false) (hkeeps : h.debugger.KeepsPlace)
    (enters : h.Enters line v) {n : Nat} {o : RunOutcome} :
    h.RunsOn n h' o ↔ Continues (v.execute line) n h' o := by
  rw [runsOn_iff unfinished, tick_of_enters hkeeps enters]

/-- The host that has waited before the line of a number and comes back to it.  The line hook has
made `d` of the debugger before the wait. -/
def backAt (h : Host) (d : Debugger Machine) (number : Nat) : Host :=
  h.withDebugger { d.noted (.number number) with runtime := { d.runtime with stop := none } }

/-- A run that waits before a line runs on from it behind the wait. -/
theorem runsOn_of_throttle (unfinished : h.finished = false) (hkeeps : h.debugger.KeepsPlace)
    (before : h.process.IsBefore h.program line) (active : h.debugger.state ≠ .idle)
    {d : Debugger Machine} (looked : h.debugger.onLine (.number line.number) = d)
    (asked : d.runtime.stop = some .throttle)
    (waited : d.throttledLine = some (.number line.number))
    (keeps : KeepsPlace { d with runtime := { d.runtime with stop := none } }) {n : Nat}
    {o : RunOutcome} :
    h.RunsOn n h' o ↔ Continues ((h.backAt d line.number).execute line) n h' o := by
  have hlooks := looks_onLine h.debugger (.number line.number)
  rw [looked] at hlooks
  have hvisit : h.visit line.number = h.withDebugger d := by
    rw [visit_of_first before.first, looked]
  have hasked : (h.visit line.number).machine.stop = some .throttle := by
    rw [hvisit]
    exact asked
  have htick := tick_of_stop hkeeps before hasked
  rw [hvisit] at htick
  have hpc : d.runtime.process.pc = h.process.pc := looks_pc hkeeps hlooks
  have hbefore : (h.withDebugger d).takeStop.2.process.IsBefore h.program line := before.of_pc hpc
  have hactive : (h.withDebugger d).takeStop.2.debugger.state ≠ .idle :=
    fun hidle => active ((looks_state hlooks).1 hidle)
  have hback := enters_waited hactive hbefore waited rfl
  have hwaiting : (h.withDebugger d).takeStop.2.finished = false := unfinished
  rw [runsOn_of_wait unfinished htick rfl, runsOn_of_enters hwaiting keeps hback]
  rfl

end Host

end LineBasic
