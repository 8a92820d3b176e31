import LineBasic.Proofs.StepLanding

/-!
# Steps to the next line

A step into the next line leaves two marks at the pause: the breakpoint of the line is passed over,
and the line does not end the step.  Both are meant for the check of the line on which the program
is paused, and a run that goes on with this check stops before the next line whatever that is.

A run that goes on inside its line, or from a wait, makes no such check.  The marks are then spent
on the next line: it does not end the step, and if it is the same line again, not even a breakpoint
counts.  A pause that was commanded before the first line of a run has the marks point to another
line, and the step is over before it has begun.  This module proves that a step stops before the
next line in all other cases and in none of these.

## Main definitions

* `Into`: the host on the way of such a step.
* `MissesNext`: the cases in which a step does not stop before the next line.

## Main results

* `continues_lands`: up to the next line start no line is looked at.
* `Into.stops_at`, `Into.goes_on`: a line start during a step either stops the program or not.
* `step_into_next`: a step stops before the next line unless it misses it.
-/

namespace LineBasic

open Debugger Host

variable {program : Program} {h g v x h' : Host} {line : SourceLine} {n m : Nat} {o : RunOutcome}

/-! ## Conditions and the rest of the state -/

/-- Whether a breakpoint hits is a matter of the breakpoints and the process. -/
theorem hits_congr {d d' : Debugger Machine} (tests : d.conditionTest = some evaluatorTest)
    (tests' : d'.conditionTest = some evaluatorTest) (same : d.breakpoints = d'.breakpoints)
    (process : d.runtime.process = d'.runtime.process) (id : LineId) :
    d.hits id = d'.hits id ∧ (d.tested id).process = (d'.tested id).process := by
  have hvars : Debuggee.vars d.runtime = Debuggee.vars d'.runtime :=
    congrArg Process.vars process
  have hon : d.breakpointOn id = d'.breakpointOn id := by
    unfold breakpointOn
    rw [same]
  have htest : ∀ condition, (d.testCondition condition).1 = (d'.testCondition condition).1 ∧
      (d.testCondition condition).2.runtime.process =
        (d'.testCondition condition).2.runtime.process := by
    intro condition
    unfold testCondition
    rw [tests, tests']
    cases condition with
    | none => exact ⟨rfl, process⟩
    | some text =>
        dsimp only [evaluatorTest, settle]
        rw [hvars]
        generalize Snippet.evaluate text (Debuggee.vars d'.runtime) = answer
        have hset : (Debuggee.setVariables d.runtime answer.vars).process =
            (Debuggee.setVariables d'.runtime answer.vars).process :=
          congrArg (fun p : Process => { p with vars := answer.vars }) process
        exact ⟨rfl, congrArg
          (fun p : Process => { p with output := p.output ++ answer.printed }) hset⟩
  unfold hits tested
  rw [hon]
  cases d'.breakpointOn id with
  | none => exact ⟨rfl, process⟩
  | some bp =>
      obtain ⟨hholds, hprocess⟩ := htest bp.condition
      dsimp only
      rw [hholds]
      refine ⟨rfl, ?_⟩
      split
      · exact hprocess
      · exact process

/-! ## The host on the way -/

/-- The host `x` is on the way of a step into the next line that began at the host `h`. -/
structure Into (h x : Host) : Prop where
  running : x.finished = false
  loaded : x.program = h.program
  tests : x.debugger.conditionTest = some evaluatorTest
  paced : x.debugger.Paced
  active : x.debugger.state ≠ .idle
  mode : x.debugger.stepMode = some .intoCalls
  clear : x.debugger.lastError = none
  unasked : x.machine.stop = none
  breakpoints : x.debugger.breakpoints = h.debugger.breakpoints
  speed : x.debugger.speed = h.debugger.speed

/-- The marks of the step are still there, and point to the line of a number. -/
structure Armed (d : Debugger Machine) (n : Nat) : Prop where
  check : d.skipStepCheck = true
  line : d.skipBreakpoint = some n

/-- The marks of the step are spent. -/
structure Disarmed (d : Debugger Machine) : Prop where
  check : d.skipStepCheck = false
  line : d.skipBreakpoint = none

namespace Into

theorem keepsPlace (hi : Into h x) : x.debugger.KeepsPlace := keepsPlace_evaluator hi.tests

theorem moved (hi : Into h x) (p : Process) : Into h (x.withProcess p) :=
  ⟨hi.running, hi.loaded, hi.tests, hi.paced, hi.active, hi.mode, hi.clear, hi.unasked,
    hi.breakpoints, hi.speed⟩

/-- Breakpoints hit as they would with the process at the host where the step began. -/
theorem hits_withProcess (hi : Into h x) (hc : Coherent program h) (p : Process) (id : LineId) :
    (x.withProcess p).debugger.hits id = (h.withProcess p).debugger.hits id ∧
      ((x.withProcess p).debugger.tested id).process =
        ((h.withProcess p).debugger.tested id).process := by
  have htests : (h.withProcess p).debugger.conditionTest = some evaluatorTest := hc.tests
  exact hits_congr (hi.moved p).tests htests hi.breakpoints rfl id

/-- Testing a condition asks for no stop. -/
theorem tested_stop (hi : Into h x) (id : LineId) : (x.debugger.tested id).stop = none := by
  obtain ⟨vars, output, htested⟩ := tested_evaluator hi.tests id
  rw [htested]
  exact hi.unasked

theorem stepIsOver_eq (hi : Into h x) (runtime : Machine) :
    x.debugger.stepIsOver runtime = !x.debugger.skipStepCheck := by
  unfold stepIsOver
  rw [hi.mode]
  exact Bool.and_true _

/-- At speed zero there is a pause before every line. -/
theorem chunk_of_zero (hi : Into h x) (zero : x.debugger.speed = 0) :
    x.debugger.pace.chunk = some 1 := by
  rw [hi.paced, zero]
  rfl

/-- A line that does not bear the mark stops the program if its breakpoint hits, if the mark of the
step is spent, or at speed zero. -/
theorem looks_stops (hi : Into h x) {d : Debugger Machine}
    (unwaited : x.debugger.throttledLine ≠ some (.number n))
    (unmarked : x.debugger.skipBreakpoint ≠ some n)
    (stops : x.debugger.skipStepCheck = false ∨ x.debugger.hits (.number n) = true ∨
      x.debugger.speed = 0)
    (hlooks : Looks x.debugger (.number n) d) :
    d.runtime.stop = some .pause ∧ d.nextDelay = 0 ∧ d.state = .paused ∧ d.lastError = none ∧
      d.runtime.process = (x.debugger.tested (.number n)).process := by
  have hasked : some (StopRequest.merge (x.debugger.tested (.number n)).stop .pause) =
      some .pause := by
    rw [hi.tested_stop]
    rfl
  cases hlooks with
  | idle asleep => exact absurd asleep hi.active
  | reentry _ waited => exact absurd waited unwaited
  | broken | halted => exact ⟨hasked, rfl, rfl, hi.clear, rfl⟩
  | stepped _ _ runtime unbroken =>
      cases unbroken with
      | marked mark => exact absurd (isMarked_number.1 mark) unmarked
      | missed => exact ⟨hasked, rfl, rfl, hi.clear, rfl⟩
  | resumed _ _ mark => exact absurd (isMarked_number.1 mark) unmarked
  | waits _ _ _ miss unfinished speed =>
      rw [hi.stepIsOver_eq] at unfinished
      rcases stops with hcheck | hhit | hzero
      · rw [hcheck] at unfinished
        cases unfinished
      · cases hhit.symm.trans miss
      · exact absurd hzero speed
  | runs _ _ _ miss unfinished counter unheld =>
      rw [hi.stepIsOver_eq] at unfinished
      rcases stops with hcheck | hhit | hzero
      · rw [hcheck] at unfinished
        cases unfinished
      · cases hhit.symm.trans miss
      · rcases unheld with hspeed | hchunk
        · exact absurd hzero hspeed
        · cases (hi.chunk_of_zero hzero).symm.trans hchunk

/-- A line that bears the mark, or on which neither a breakpoint nor the speed stops the program,
does not end a step that is still to leave its line.  The marks are spent there, and the program
runs on, at once or after a wait. -/
theorem looks_goes (hi : Into h x) {d : Debugger Machine}
    (unwaited : x.debugger.throttledLine ≠ some (.number n))
    (check : x.debugger.skipStepCheck = true)
    (goes : x.debugger.skipBreakpoint = some n ∨
      (x.debugger.hits (.number n) = false ∧ x.debugger.speed ≠ 0))
    (hlooks : Looks x.debugger (.number n) d) :
    Disarmed d ∧ Into h (x.withDebugger { d with runtime := { d.runtime with stop := none } }) ∧
      ((d.runtime.stop = none ∧ d.throttledLine = none) ∨
        (d.runtime.stop = some .throttle ∧ d.throttledLine = some (.number n))) := by
  have hstop := hi.tested_stop (.number n)
  have hdisarmed : (x.debugger.skipStepCheck && x.debugger.stepMode.isNone) = false := by
    rw [hi.mode, Option.isNone_some, Bool.and_false]
  have hinto : ∀ (m : Machine) counter delay throttled bus, Into h
      (x.withDebugger
        { x.debugger.checked (.number n) { m with stop := none } with
          lineCounter := counter, nextDelay := delay, throttledLine := throttled,
          events := bus }) := by
    intro m counter delay throttled bus
    exact ⟨hi.running, hi.loaded, hi.tests, hi.paced, hi.active, hi.mode, hi.clear, rfl,
      hi.breakpoints, hi.speed⟩
  cases hlooks with
  | idle asleep => exact absurd asleep hi.active
  | reentry _ waited => exact absurd waited unwaited
  | broken _ _ mark hit =>
      rcases goes with hmark | ⟨hmiss, -⟩
      · cases mark.symm.trans (isMarked_number.2 hmark)
      · cases hit.symm.trans hmiss
  | stepped _ _ runtime unbroken isOver =>
      cases (skipStepCheck_of_stepIsOver isOver).symm.trans check
  | resumed => exact ⟨⟨hdisarmed, rfl⟩, hinto _ _ _ _ _, .inl ⟨hi.unasked, rfl⟩⟩
  | halted _ _ mark _ _ speed =>
      rcases goes with hmark | ⟨-, hspeed⟩
      · cases mark.symm.trans (isMarked_number.2 hmark)
      · exact absurd speed hspeed
  | waits =>
      refine ⟨⟨hdisarmed, rfl⟩, hinto _ _ _ _ _, .inr ⟨?_, rfl⟩⟩
      show some (StopRequest.merge (x.debugger.tested (.number n)).stop .throttle) = _
      rw [hstop]
      rfl
  | runs => exact ⟨⟨hdisarmed, rfl⟩, hinto _ _ _ _ _, .inl ⟨hstop, rfl⟩⟩

/-- The program stops before a line on which the line hook stops it. -/
theorem stops_at (hi : Into h x) (before : x.process.IsBefore x.program line)
    (unwaited : x.debugger.throttledLine ≠ some (.number line.number))
    (unmarked : x.debugger.skipBreakpoint ≠ some line.number)
    (stops : x.debugger.skipStepCheck = false ∨ x.debugger.hits (.number line.number) = true ∨
      x.debugger.speed = 0) :
    ∃ y, x.tick = (y, some (.stopped (.number line.number) .pause 0)) ∧
      y.debugger.state = .paused ∧ y.debugger.lastError = none ∧
      y.process = (x.debugger.tested (.number line.number)).process := by
  obtain ⟨hstop, hdelay, hpaused, hclear, hprocess⟩ :=
    hi.looks_stops unwaited unmarked stops (looks_onLine x.debugger (.number line.number))
  exact ⟨_, tick_of_pause hi.keepsPlace before hstop hdelay, hpaused, hclear, hprocess⟩

/-- The program runs on from a line on which the line hook does not stop it. -/
theorem goes_on (hi : Into h x) (before : x.process.IsBefore x.program line)
    (unwaited : x.debugger.throttledLine ≠ some (.number line.number))
    (check : x.debugger.skipStepCheck = true)
    (goes : x.debugger.skipBreakpoint = some line.number ∨
      (x.debugger.hits (.number line.number) = false ∧ x.debugger.speed ≠ 0)) :
    ∃ w, Into h w ∧ Disarmed w.debugger ∧ w.debugger.throttledLine = none ∧
      w.process = (x.visit line.number).process ∧
      ∀ n h' o, x.RunsOn n h' o ↔ Continues (w.execute line) n h' o := by
  have hvisit := visit_of_first before.first line.number
  have hlooks := looks_onLine x.debugger (.number line.number)
  generalize hlooked : x.debugger.onLine (.number line.number) = d at hlooks hvisit
  have hsame : d.runtime.process = (x.visit line.number).process := by
    rw [hvisit]
    rfl
  obtain ⟨hdisarmed, hinto, ⟨hfree, hunwaited⟩ | ⟨hasked, hwaited⟩⟩ :=
    hi.looks_goes unwaited check goes hlooks
  · have henters : x.Enters line (x.withDebugger d) := by
      rw [← hvisit]
      refine .visited before ?_
      rw [hvisit]
      exact hfree
    refine ⟨x.withDebugger d, ?_, hdisarmed, hunwaited, hsame, fun n h' o =>
      runsOn_of_enters hi.running hi.keepsPlace henters⟩
    exact ⟨hinto.running, hinto.loaded, hinto.tests, hinto.paced, hinto.active, hinto.mode,
      hinto.clear, hfree, hinto.breakpoints, hinto.speed⟩
  · refine ⟨x.backAt d line.number, ?_, ⟨hdisarmed.check, hdisarmed.line⟩, rfl, hsame, fun n h' o =>
      runsOn_of_throttle hi.running hi.keepsPlace before hi.active hlooked hasked hwaited
        hinto.keepsPlace⟩
    exact ⟨hinto.running, hinto.loaded, hinto.tests, hinto.paced, hinto.active, hinto.mode,
      hinto.clear, rfl, hinto.breakpoints, hinto.speed⟩

end Into

/-! ## From one line start to the next -/

/-- A statement with which the program goes on moves the host and nothing else. -/
theorem execute_of_advance {p : Process}
    (found : v.program.get? v.process.pc.line = some line)
    (step : v.process.advance v.program = (p, .goesOn)) :
    v.execute line = (v.withProcess p, none) := by
  rw [Process.advance_of_found found] at step
  unfold execute
  rw [step]
  rfl

/-- Up to the next line start no line is looked at: the host comes there with its debugger as it
was, after the steps that the program takes on its own. -/
theorem continues_lands {p p' : Process} {k : Nat} {result : RunOutcome}
    (lands : Process.Lands program (fun _ => True) p k p' result)
    (stopped : result = .stopped (.number m) .pause 0) (hi : Into h v)
    (loaded : h.program = program) (process : v.process = p)
    (found : program.get? p.pc.line = some line) :
    (∃ next, p'.IsBefore program next ∧ next.number = m) ∧
      ∀ n h' o, Continues (v.execute line) n h' o ↔
        ∃ i, n = k + i ∧ (v.withProcess p').RunsOn i h' o := by
  have hprogram : ∀ {g : Host}, Into h g → g.program = program := fun hg => hg.loaded.trans loaded
  induction lands generalizing v line with
  | ends step => cases stopped
  | fails found' step => cases stopped
  | @arrives p p' next step before good =>
      cases stopped
      subst process
      rw [← hprogram hi] at found step
      refine ⟨⟨next, before, rfl⟩, ?_⟩
      intro n h' o
      rw [execute_of_advance found step]
      show (∃ i, n = i + 1 ∧ (v.withProcess p').RunsOn i h' o) ↔ _
      simp only [Nat.add_comm]
  | @passes p q p' k result step past rest ih =>
      have hx := hi.moved q
      cases hnext : program.get? q.pc.line with
      | none =>
          obtain ⟨-, -, rfl⟩ := (Process.lands_of_ends (Process.advance_of_past hnext)).1 rest
          cases stopped
      | some line' =>
          have hinside : q.pc.statement ≠ 0 := fun hfirst =>
            past line' ⟨hnext, hfirst⟩ trivial
          have henters : (v.withProcess q).Enters line' (v.withProcess q) := by
            refine .inside ?_ hinside
            rw [hprogram hx]
            exact hnext
          obtain ⟨hbefore, hruns⟩ := ih stopped hx rfl hnext
          subst process
          rw [← hprogram hi] at found step
          refine ⟨hbefore, ?_⟩
          intro n h' o
          rw [execute_of_advance found step]
          show (∃ i, n = i + 1 ∧ (v.withProcess q).RunsOn i h' o) ↔ _
          simp only [runsOn_of_enters hx.running hx.keepsPlace henters, hruns]
          constructor
          · rintro ⟨i, rfl, j, rfl, hrun⟩
            exact ⟨j, Nat.add_right_comm k j 1, hrun⟩
          · rintro ⟨j, rfl, hrun⟩
            exact ⟨k + j, Nat.add_right_comm k 1 j, j, rfl, hrun⟩

/-- A stop in the statement that the program runs next is a stop on a fault. -/
theorem lastError_of_stopped {id : LineId} {reason : StopReason} {delay : Nat}
    (hcontinues : Continues (v.execute line) 0 h' (.stopped id reason delay)) :
    h'.debugger.lastError ≠ none := by
  have hexecutes := executes_execute v line
  generalize v.execute line = r at hexecutes hcontinues
  cases hexecutes with
  | goesOn p step =>
      obtain ⟨m, hm, -⟩ := hcontinues
      cases hm
  | ends p step => cases hcontinues.2.2
  | faults p f step r result =>
      cases result with
      | fails => cases hcontinues.2.2
      | trapped on bus =>
          rw [hcontinues.2.1]
          intro hnone
          cases hnone

/-! ## The step -/

/-- The cases in which a step into the next line, from a pause on a line, does not stop before the
line of the number `m`, which the program comes to next as `p'`. -/
inductive MissesNext (h : Host) (line : SourceLine) (m : Nat) (p' : Process) : Prop where
  /-- The program goes on inside its line, or from a wait, and comes to the same line again. -/
  | again (unchecked : ¬ h.IsChecked) (same : m = line.number)
  /-- The program goes on inside its line, or from a wait, and nothing but the step would stop it
  before the next line. -/
  | unheld (unchecked : ¬ h.IsChecked)
      (miss : (h.withProcess p').debugger.hits (.number m) = false)
      (speed : h.debugger.speed ≠ 0)
  /-- The marks are for another line, and the program is stopped before the line it is on. -/
  | early (checked : h.IsChecked) (stale : h.debugger.currentLine ≠ .number line.number)
      (held : h.debugger.hits (.number line.number) = true ∨ h.debugger.speed = 0)

/-- The host `g` is the host `h` with a step into the next line commanded: the marks of the step are
for the current line of `h`. -/
structure Begun (h g : Host) : Prop where
  into : Into h g
  check : g.debugger.skipStepCheck = true
  mark : g.debugger.skipBreakpoint = h.debugger.currentLine.number?
  waits : g.debugger.throttledLine = h.debugger.throttledLine
  process : g.process = h.process

theorem begun_command (hc : Coherent program h) (running : h.finished = false)
    (paused : h.debugger.state = .paused) : Begun h (h.command (.step .intoCalls)) := by
  rw [step_command paused]
  refine ⟨⟨running, rfl, hc.tests, hc.paced, ?_, rfl, rfl, rfl, rfl, rfl⟩, rfl, rfl, rfl, rfl⟩
  intro hidle
  cases hidle

/-- The host stops, paused and without an error, before the line of the number `m` that the program
has come to as `p'`. -/
def StopsNext (h x : Host) (p' : Process) (m n : Nat) : Prop :=
  ∃ h', x.RunsOn n h' (.stopped (.number m) .pause 0) ∧
    h'.debugger.state = .paused ∧ h'.debugger.lastError = none ∧
    h'.process = ((h.withProcess p').debugger.tested (.number m)).process

section Arrival

variable {p' : Process} {next : SourceLine}

theorem stopsNext_of_stops (hc : Coherent program h) (hi : Into h v)
    (before : p'.IsBefore program next) (unwaited : v.debugger.throttledLine = none)
    (unmarked : v.debugger.skipBreakpoint ≠ some next.number)
    (stops : v.debugger.skipStepCheck = false ∨
      (h.withProcess p').debugger.hits (.number next.number) = true ∨ h.debugger.speed = 0) :
    StopsNext h (v.withProcess p') p' next.number 0 := by
  have hx := hi.moved p'
  obtain ⟨hhits, htested⟩ := hi.hits_withProcess hc p' (.number next.number)
  have hbefore : (v.withProcess p').process.IsBefore (v.withProcess p').program next := by
    rw [hx.loaded, hc.program]
    exact before
  have hunwaited : (v.withProcess p').debugger.throttledLine ≠ some (.number next.number) := by
    intro hwaited
    cases unwaited.symm.trans hwaited
  rw [← hhits, ← hx.speed] at stops
  obtain ⟨y, htick, hpaused, hclear, hprocess⟩ := hx.stops_at hbefore hunwaited unmarked stops
  exact ⟨y, (runsOn_of_settled hx.running htick rfl).2 ⟨rfl, rfl, rfl⟩, hpaused, hclear,
    hprocess.trans htested⟩

theorem not_stopsNext_of_goes (hc : Coherent program h) (hi : Into h v)
    (before : p'.IsBefore program next) (unwaited : v.debugger.throttledLine = none)
    (check : v.debugger.skipStepCheck = true)
    (goes : v.debugger.skipBreakpoint = some next.number ∨
      ((h.withProcess p').debugger.hits (.number next.number) = false ∧ h.debugger.speed ≠ 0)) :
    ¬ StopsNext h (v.withProcess p') p' next.number 0 := by
  have hx := hi.moved p'
  obtain ⟨hhits, -⟩ := hi.hits_withProcess hc p' (.number next.number)
  have hbefore : (v.withProcess p').process.IsBefore (v.withProcess p').program next := by
    rw [hx.loaded, hc.program]
    exact before
  have hunwaited : (v.withProcess p').debugger.throttledLine ≠ some (.number next.number) := by
    intro hwaited
    cases unwaited.symm.trans hwaited
  rw [← hhits, ← hx.speed] at goes
  obtain ⟨w, -, -, -, -, hruns⟩ := hx.goes_on hbefore hunwaited check goes
  rintro ⟨h', hrun, -, hclear, -⟩
  exact lastError_of_stopped ((hruns _ _ _).1 hrun) hclear

end Arrival

/-- Only the line of a number has that number. -/
theorem number_of_number? {id : LineId} (hnumber : id.number? = some n) : id = .number n := by
  cases id with
  | number k =>
      cases hnumber
      rfl
  | label name => cases hnumber

/-- A run that goes on without a check of its line begins on the current line. -/
theorem currentLine_of_unchecked {last : Option RunOutcome} (session : DebugSession program h last)
    (running : h.finished = false) (found : program.get? h.process.pc.line = some line)
    (unchecked : ¬ h.IsChecked) : h.debugger.currentLine = .number line.number := by
  have hc := session_coherent session
  have hfound : h.program.get? h.process.pc.line = some line := hc.program ▸ found
  refine currentLine_of_stopped session running ?_ hfound
  rintro rfl
  rcases session_stands session with hfinished | ⟨hfirst, hnone⟩
  · cases running.symm.trans hfinished
  · refine unchecked ((isChecked_iff hfound).2 ⟨?_, ?_⟩)
    · rw [hfirst]
      rfl
    · rw [hnone]
      intro hwaited
      cases hwaited

section Way

variable {p' : Process} {k : Nat}

/-- A run that goes on without a check of its line runs the line, and the marks are still there. -/
theorem enters_unchecked (hc : Coherent program h) (hb : Begun h g)
    (current : h.debugger.currentLine = .number line.number)
    (found : program.get? h.process.pc.line = some line) (unchecked : ¬ h.IsChecked) :
    ∃ v, Into h v ∧ Armed v.debugger line.number ∧ v.debugger.throttledLine = none ∧
      v.process = (g.visit line.number).process ∧
      ∀ n h' o, g.RunsOn n h' o ↔ Continues (v.execute line) n h' o := by
  have hmark : g.debugger.skipBreakpoint = some line.number := by
    rw [hb.mark, current]
    rfl
  have hfound : g.program.get? g.process.pc.line = some line := by
    rw [hb.into.loaded, hc.program, hb.process]
    exact found
  by_cases hfirst : g.process.pc.statement = 0
  · have hwaited : g.debugger.throttledLine = some (.number line.number) := by
      rw [hb.waits]
      refine Classical.not_not.1 fun hother =>
        unchecked ((isChecked_iff (hc.program ▸ found)).2 ⟨?_, hother⟩)
      rw [← hb.process]
      exact hfirst
    have henters := enters_waited hb.into.active ⟨hfound, hfirst⟩ hwaited hb.into.unasked
    have hvisit : g.visit line.number =
        g.withDebugger (g.debugger.noted (.number line.number)) := by
      rw [visit_of_first hfirst]
      exact congrArg g.withDebugger (looks_waited hb.into.active hwaited (looks_onLine _ _))
    refine ⟨g.withDebugger (g.debugger.noted (.number line.number)), ?_, ⟨hb.check, hmark⟩, rfl,
      ?_, fun n h' o => runsOn_of_enters hb.into.running hb.into.keepsPlace henters⟩
    · exact ⟨hb.into.running, hb.into.loaded, hb.into.tests, hb.into.paced, hb.into.active,
        hb.into.mode, hb.into.clear, hb.into.unasked, hb.into.breakpoints, hb.into.speed⟩
    · rw [hvisit]
  · have hvisit : g.visit line.number = g := by
      unfold visit
      rw [if_neg hfirst]
    refine ⟨g, hb.into, ⟨hb.check, hmark⟩, ?_, ?_, fun n h' o =>
      runsOn_of_enters hb.into.running hb.into.keepsPlace (.inside hfound hfirst)⟩
    · rw [hb.waits]
      refine hc.throttledLine_inside ?_
      rw [← hb.process]
      exact hfirst
    · rw [hvisit]

/-- A run that is about to run a line stops next where it stops behind the steps up to the next line
start. -/
theorem stopsNext_iff (hc : Coherent program h) (hb : Begun h g)
    (found : program.get? h.process.pc.line = some line)
    (lands : Process.Lands program (fun _ => True) (g.visit line.number).process k p'
      (.stopped (.number m) .pause 0))
    (hv : Into h v) (same : v.process = (g.visit line.number).process)
    (hruns : ∀ n h' o, g.RunsOn n h' o ↔ Continues (v.execute line) n h' o) :
    ∃ next, p'.IsBefore program next ∧ next.number = m ∧
      (StopsNext h g p' m k ↔ StopsNext h (v.withProcess p') p' m 0) := by
  have hfound : program.get? (g.visit line.number).process.pc.line = some line := by
    rw [visit_pc hb.into.keepsPlace, hb.process]
    exact found
  obtain ⟨⟨next, hbefore, hnumber⟩, hcontinues⟩ :=
    continues_lands lands rfl hv hc.program same hfound
  refine ⟨next, hbefore, hnumber, exists_congr fun h' => and_congr_left fun _ => ?_⟩
  rw [hruns, hcontinues]
  constructor
  · rintro ⟨i, hi, hrun⟩
    obtain rfl : i = 0 := by omega
    exact hrun
  · intro hrun
    exact ⟨0, rfl, hrun⟩

/-- A step whose run begins with a check of the line stops before the next line, unless it is
stopped before the line it is on. -/
theorem stopsNext_checked (hc : Coherent program h) (hb : Begun h g)
    (found : program.get? h.process.pc.line = some line)
    (lands : Process.Lands program (fun _ => True) (g.visit line.number).process k p'
      (.stopped (.number m) .pause 0)) (checked : h.IsChecked) :
    StopsNext h g p' m k ↔ ¬ MissesNext h line m p' := by
  have hhits := (hits_congr hb.into.tests hc.tests hb.into.breakpoints hb.process
    (.number line.number)).1
  have hspeed := hb.into.speed
  have hfound : h.program.get? h.process.pc.line = some line := hc.program ▸ found
  obtain ⟨hfirst, hother⟩ := (isChecked_iff hfound).1 checked
  have hbefore : g.process.IsBefore g.program line := by
    rw [hb.process, hb.into.loaded]
    exact ⟨hfound, hfirst⟩
  have hunwaited : g.debugger.throttledLine ≠ some (.number line.number) := by
    rw [hb.waits]
    exact hother
  by_cases hearly : h.debugger.currentLine ≠ .number line.number ∧
      (h.debugger.hits (.number line.number) = true ∨ h.debugger.speed = 0)
  · refine iff_of_false ?_ fun hnext => hnext (.early checked hearly.1 hearly.2)
    have hunmarked : g.debugger.skipBreakpoint ≠ some line.number := fun hmarked =>
      hearly.1 (number_of_number? (hb.mark.symm.trans hmarked))
    have hstops := hearly.2
    rw [← hhits, ← hspeed] at hstops
    obtain ⟨y, htick, -⟩ := hb.into.stops_at hbefore hunwaited hunmarked (.inr hstops)
    rintro ⟨h', hrun, -⟩
    obtain ⟨rfl, -⟩ := (runsOn_of_settled hb.into.running htick rfl).1 hrun
    cases lands
  · have hgoes : g.debugger.skipBreakpoint = some line.number ∨
        (g.debugger.hits (.number line.number) = false ∧ g.debugger.speed ≠ 0) := by
      by_cases hcurrent : h.debugger.currentLine = .number line.number
      · refine .inl ?_
        rw [hb.mark, hcurrent]
        rfl
      · have hfree := not_or.1 fun hheld => hearly ⟨hcurrent, hheld⟩
        rw [Bool.not_eq_true] at hfree
        rw [hhits, hspeed]
        exact .inr hfree
    obtain ⟨w, hw, hdisarmed, hwunwaited, hsame, hruns⟩ :=
      hb.into.goes_on hbefore hunwaited hb.check hgoes
    obtain ⟨next, hnext, rfl, hiff⟩ := stopsNext_iff hc hb found lands hw hsame hruns
    refine iff_of_true (hiff.2 ?_) ?_
    · refine stopsNext_of_stops hc hw hnext hwunwaited ?_ (.inl hdisarmed.check)
      rw [hdisarmed.line]
      intro hmark
      cases hmark
    · intro hmisses
      cases hmisses with
      | again unchecked | unheld unchecked => exact unchecked checked
      | early _ stale held => exact hearly ⟨stale, held⟩

/-- A step whose run begins without a check of the line stops before the next line only if a
breakpoint or the speed stops it there, and if that is another line. -/
theorem stopsNext_unchecked (hc : Coherent program h) (hb : Begun h g)
    (current : h.debugger.currentLine = .number line.number)
    (found : program.get? h.process.pc.line = some line)
    (lands : Process.Lands program (fun _ => True) (g.visit line.number).process k p'
      (.stopped (.number m) .pause 0)) (unchecked : ¬ h.IsChecked) :
    StopsNext h g p' m k ↔ ¬ MissesNext h line m p' := by
  obtain ⟨v, hv, harmed, hunwaited, hsame, hruns⟩ :=
    enters_unchecked hc hb current found unchecked
  obtain ⟨next, hnext, rfl, hiff⟩ := stopsNext_iff hc hb found lands hv hsame hruns
  rw [hiff]
  by_cases hgoes : v.debugger.skipBreakpoint = some next.number ∨
      ((h.withProcess p').debugger.hits (.number next.number) = false ∧ h.debugger.speed ≠ 0)
  · refine iff_of_false
      (not_stopsNext_of_goes hc hv hnext hunwaited harmed.check hgoes) fun hn => hn ?_
    rcases hgoes with hmark | ⟨hmiss, hspeed⟩
    · exact .again unchecked (Option.some.inj (hmark.symm.trans harmed.line))
    · exact .unheld unchecked hmiss hspeed
  · obtain ⟨hunmarked, hheld⟩ := not_or.1 hgoes
    refine iff_of_true (stopsNext_of_stops hc hv hnext hunwaited hunmarked (.inr ?_)) ?_
    · by_cases hzero : h.debugger.speed = 0
      · exact .inr hzero
      · refine .inl ?_
        rw [← Bool.not_eq_false]
        exact fun hmiss => hheld ⟨hmiss, hzero⟩
    · intro hmisses
      cases hmisses with
      | again _ same => exact hunmarked (harmed.line.trans (congrArg some same.symm))
      | unheld _ hmiss hspeed => exact hheld ⟨hmiss, hspeed⟩
      | early checked => exact unchecked checked

end Way

/--
A step into the next line, run on over all waits, lets the rest of the current line run and stops
before the next line that the program comes to, unless it is one of the three cases in which it
misses that line.  Where it stops, nothing of the line has run but the test of its condition.
-/
theorem step_into_next {last : Option RunOutcome} (session : DebugSession program h last)
    (running : h.finished = false) (paused : h.debugger.state = .paused)
    (found : program.get? h.process.pc.line = some line) {k : Nat} {p' : Process}
    (lands : Process.Lands program (fun _ => True)
      ((h.command (.step .intoCalls)).visit line.number).process k p'
      (.stopped (.number m) .pause 0)) :
    StopsNext h (h.command (.step .intoCalls)) p' m k ↔ ¬ MissesNext h line m p' := by
  have hc := session_coherent session
  have hb := begun_command hc running paused
  by_cases hchecked : h.IsChecked
  · exact stopsNext_checked hc hb found lands hchecked
  · have hcurrent := currentLine_of_unchecked session running found hchecked
    exact stopsNext_unchecked hc hb hcurrent found lands hchecked

/-- From the entry of the calling program a step into the next line follows the call. -/
theorem step_into_next_calling :
    DebugSession .calling entered (some (.stopped (.number 10) .pause 0)) ∧
      entered.finished = false ∧ entered.debugger.state = .paused ∧
      StopsNext entered (entered.command (.step .intoCalls)) ⟨⟨2, 0⟩, [⟨10, ⟨0, 1⟩⟩], ∅, ""⟩
        30 1 := by
  have hsession : DebugSession .calling entered (some (.stopped (.number 10) .pause 0)) :=
    .run (.start .load true) (show run 1 _ = some _ from rfl)
  refine ⟨hsession, rfl, rfl, ?_⟩
  refine (step_into_next hsession rfl rfl rfl (.arrives rfl ⟨rfl, rfl⟩ trivial)).2 fun hmisses => ?_
  have hchecked : entered.IsChecked := by
    refine ⟨_, ⟨rfl, rfl⟩, ?_⟩
    intro hwaited
    cases hwaited
  cases hmisses with
  | again unchecked | unheld unchecked => exact unchecked hchecked
  | early _ stale => exact stale rfl

end LineBasic
