import LineBasic.Proofs.Session

/-!
# Where a step lands

A step that begins at a pause before a line ends before the first later line at which its condition
on the call depth holds.  Subroutines in between, returns into the middle of a line, jumps out of a
subroutine and waits for the speed make no difference: what counts is the depth at each line start
of the program on its own.

The host during a step is described by `Stepping`.  From one statement to the next it either keeps
this description, with at most one wait in between, or it stands before the line where the step is
over.

## Main definitions

* `Held`: a program paused before a line by a breakpoint or a step.
* `Stepping`: the host on the way of a step.

## Main results

* `step_command`: a step from a pause, field by field.
* `execute_lands`: on the way of a step the host runs as the program on its own.
* `step_lands`: a step lands where the call depth says.
-/

namespace LineBasic

open Debugger Host

variable {program : Program} {h x v h' : Host} {line : SourceLine} {n : Nat} {o : RunOutcome}

/-! ## A step from a pause -/

/-- A step from a pause marks the line, clears what is asked for, and counts from the depth of the
pause. -/
theorem step_command (paused : h.debugger.state = .paused) (mode : StepMode) :
    h.command (.step mode) =
      h.withDebugger
        { h.debugger with
          lastError := none,
          skipErrorLine := (h.debugger.lastError.map ErrorInfo.line).or h.debugger.skipErrorLine,
          skipBreakpoint := h.debugger.currentLine.number?, skipStepCheck := true,
          stepMode := some mode, stepDepth := h.process.calls.length, state := .stepping,
          runtime := { h.machine with stop := none },
          events := h.debugger.events.tell
            (change { h.debugger with lastError := none } .stepping) } := by
  have hactive : h.debugger.state ≠ .idle := by simp [paused]
  show h.withDebugger (h.debugger.beginStep mode) = _
  rw [beginStep_eq hactive, if_pos paused, Machine.depth_eq, markOnLeaving_of_paused paused]
  rfl

/-! ## On the way -/

/-- The host on the way of a step: it has left the line on which the step began, no breakpoint is
enabled, faults are left to the program, and nothing is asked for or waited for. -/
structure Stepping (mode : StepMode) (depth : Nat) (h : Host) : Prop where
  running : h.finished = false
  disabled : h.debugger.breakpoints.All fun bp => bp.enabled = false
  faults : h.debugger.breakOnError = false
  speed : h.debugger.speed ≠ 0
  active : h.debugger.state ≠ .idle
  mode : h.debugger.stepMode = some mode
  depth : h.debugger.stepDepth = depth
  left : h.debugger.skipStepCheck = false
  unmarked : h.debugger.skipBreakpoint = none
  unasked : h.machine.stop = none
  unwaited : h.debugger.throttledLine = none

namespace Stepping

variable {mode : StepMode} {depth : Nat}

theorem tested (hs : Stepping mode depth h) (line : LineId) :
    h.debugger.tested line = h.machine :=
  tested_disabled hs.disabled line

theorem keepsPlace (hs : Stepping mode depth h) : h.debugger.KeepsPlace := by
  intro line
  rw [hs.tested]
  rfl

/-- The question whether the step is over on a line. -/
theorem stepIsOver_eq (hs : Stepping mode depth h) :
    h.debugger.stepIsOver h.machine = mode.isOver h.process.calls.length depth := by
  have hdepth : Debuggee.depth h.machine = h.process.calls.length := List.length_map _
  unfold stepIsOver
  rw [hs.mode]
  dsimp only
  rw [hs.left, hs.depth, hdepth]
  rfl

/-- The program moves on without an end of the step. -/
theorem moved (hs : Stepping mode depth h) (p : Process) : Stepping mode depth (h.withProcess p) :=
  ⟨hs.running, hs.disabled, hs.faults, hs.speed, hs.active, hs.mode, hs.depth, hs.left,
    hs.unmarked, hs.unasked, hs.unwaited⟩

/-- The step is over on the line that the line hook looks at. -/
theorem looks_over (hs : Stepping mode depth h) {d : Debugger Machine} {id : LineId}
    (isOver : mode.isOver h.process.calls.length depth = true) (hlooks : Looks h.debugger id d) :
    d.runtime.stop = some .pause ∧ d.nextDelay = 0 ∧ d.runtime.process = h.process := by
  have htested : h.debugger.tested id = h.machine := hs.tested id
  have hover : h.debugger.stepIsOver h.machine = true := hs.stepIsOver_eq.trans isOver
  have hasked : some (StopRequest.merge h.machine.stop .pause) = some .pause := by
    rw [hs.unasked]
    rfl
  cases hlooks with
  | idle asleep => exact absurd asleep hs.active
  | reentry _ waited => cases waited.symm.trans hs.unwaited
  | broken _ _ _ hit => cases hit.symm.trans (hits_disabled hs.disabled id)
  | stepped _ _ runtime unbroken =>
      have hruntime : runtime = h.machine := by
        cases unbroken with
        | marked => rfl
        | missed => exact htested
      rw [hruntime]
      exact ⟨hasked, rfl, rfl⟩
  | resumed _ _ _ unfinished => cases unfinished.symm.trans hover
  | halted _ _ _ _ unfinished | waits _ _ _ _ unfinished | runs _ _ _ _ unfinished =>
      rw [htested, hover] at unfinished
      cases unfinished

/-- The step goes on from the line that the line hook looks at, at once or after a wait. -/
theorem looks_unfinished (hs : Stepping mode depth h) {d : Debugger Machine} {number : Nat}
    (unfinished : mode.isOver h.process.calls.length depth = false)
    (hlooks : Looks h.debugger (.number number) d) :
    (d.runtime = h.machine ∧ Stepping mode depth (h.withDebugger d)) ∨
      (d.runtime = { h.machine with stop := some .throttle } ∧
        d.throttledLine = some (.number number) ∧
        Stepping mode depth
          (h.withDebugger { d with runtime := h.machine, throttledLine := none })) := by
  have htested : h.debugger.tested (.number number) = h.machine := hs.tested _
  have hover : h.debugger.stepIsOver h.machine = false := hs.stepIsOver_eq.trans unfinished
  have hleft : (h.debugger.skipStepCheck && h.debugger.stepMode.isNone) = false := by
    rw [hs.left, Bool.false_and]
  cases hlooks with
  | idle asleep => exact absurd asleep hs.active
  | reentry _ waited => cases waited.symm.trans hs.unwaited
  | broken _ _ _ hit => cases hit.symm.trans (hits_disabled hs.disabled _)
  | stepped _ _ runtime unbroken isOver =>
      have hruntime : runtime = h.machine := by
        cases unbroken with
        | marked => rfl
        | missed => exact htested
      rw [hruntime, hover] at isOver
      cases isOver
  | resumed _ _ mark =>
      unfold isMarked at mark
      rw [hs.unmarked] at mark
      cases mark
  | halted _ _ _ _ _ speed => exact absurd speed hs.speed
  | waits =>
      refine .inr ⟨?_, rfl, ?_⟩
      · rw [htested]
        show { h.machine with stop := some (StopRequest.merge h.machine.stop .throttle) } = _
        rw [hs.unasked]
        rfl
      · exact ⟨hs.running, hs.disabled, hs.faults, hs.speed, hs.active, hs.mode, hs.depth, hleft,
          rfl, hs.unasked, rfl⟩
  | runs =>
      refine .inl ⟨htested, ?_⟩
      rw [htested]
      exact ⟨hs.running, hs.disabled, hs.faults, hs.speed, hs.active, hs.mode, hs.depth, hleft,
        rfl, hs.unasked, rfl⟩

/-- The step is over on the line that the program has come to: the program pauses before it. -/
theorem tick_over (hs : Stepping mode depth h) (before : h.process.IsBefore h.program line)
    (isOver : mode.isOver h.process.calls.length depth = true) :
    ∃ x, h.tick = (x, some (.stopped (.number line.number) .pause 0)) ∧
      x.process = h.process := by
  obtain ⟨hstop, hdelay, hprocess⟩ :=
    hs.looks_over isOver (looks_onLine h.debugger (.number line.number))
  exact ⟨_, tick_of_pause hs.keepsPlace before hstop hdelay, hprocess⟩

/-- The step goes on: the program runs the next statement, if need be after a wait. -/
theorem runsOn_unfinished (hs : Stepping mode depth h)
    (found : h.program.get? h.process.pc.line = some line)
    (unfinished : h.process.pc.statement = 0 →
      mode.isOver h.process.calls.length depth = false) :
    ∃ v, Stepping mode depth v ∧ v.process = h.process ∧ v.program = h.program ∧
      ∀ n h' o, h.RunsOn n h' o ↔ Continues (v.execute line) n h' o := by
  by_cases hfirst : h.process.pc.statement = 0
  · have hbefore : h.process.IsBefore h.program line := ⟨found, hfirst⟩
    have hvisit := visit_of_first hfirst line.number
    have hlooks := looks_onLine h.debugger (.number line.number)
    generalize hlooked : h.debugger.onLine (.number line.number) = d at hlooks hvisit
    rcases hs.looks_unfinished (unfinished hfirst) hlooks with
      ⟨hruntime, hstepping⟩ | ⟨hruntime, hwaited, hstepping⟩
    · have hfree : (h.visit line.number).machine.stop = none := by
        rw [hvisit]
        exact hstepping.unasked
      have henters : h.Enters line (h.withDebugger d) := hvisit ▸ .visited hbefore hfree
      exact ⟨h.withDebugger d, hstepping, congrArg Machine.process hruntime, rfl, fun n h' o =>
        runsOn_of_enters hs.running hs.keepsPlace henters⟩
    · have hasked : d.runtime.stop = some .throttle := congrArg Machine.stop hruntime
      have hprocess : d.runtime.process = h.process := by
        rw [hruntime]
        rfl
      have hkeeps : KeepsPlace { d with runtime := { d.runtime with stop := none } } := by
        intro id
        refine congrArg (fun m : Machine => m.process.pc) (tested_disabled ?_ id)
        exact hstepping.disabled
      refine ⟨h.backAt d line.number, ?_, hprocess, rfl, fun n h' o =>
        runsOn_of_throttle hs.running hs.keepsPlace hbefore hs.active hlooked hasked hwaited hkeeps⟩
      exact ⟨hs.running, hstepping.disabled, hstepping.faults, hstepping.speed, hstepping.active,
        hstepping.mode, hstepping.depth, hstepping.left, hstepping.unmarked, rfl, rfl⟩
  · exact ⟨h, hs, rfl, rfl, fun n h' o =>
      runsOn_of_enters hs.running hs.keepsPlace (.inside found hfirst)⟩

end Stepping

/-! ## The way of a step -/

variable {mode : StepMode} {depth : Nat} {p' : Process}

/-- A program that has run past its last line ends at once. -/
theorem runsOn_of_past (running : h.finished = false)
    (isOver : h.program.get? h.process.pc.line = none) :
    h.RunsOn n h' o ↔ n = 0 ∧ h' = h.finish ∧ o = .finished :=
  runsOn_of_settled running (tick_of_past isOver) rfl

/-- An outcome at once, with the process that it leaves. -/
theorem exists_settled {o' : RunOutcome} :
    (∃ h', (n = 0 ∧ h' = x ∧ o = o') ∧ h'.process = p') ↔ n = 0 ∧ p' = x.process ∧ o = o' := by
  constructor
  · rintro ⟨h', ⟨hn, rfl, ho⟩, hp⟩
    exact ⟨hn, hp.symm, ho⟩
  · rintro ⟨hn, hp, ho⟩
    exact ⟨x, ⟨hn, rfl, ho⟩, hp.symm⟩

/-- From a place that is no goal, the host runs as the program on its own if it does so from the
statement that it is about to run there. -/
theorem runsOn_lands (hs : Stepping mode depth x) (loaded : x.program = program)
    (past : ∀ line, x.process.IsBefore program line →
      ¬ mode.isOver x.process.calls.length depth = true)
    (executes : ∀ {v : Host} {line : SourceLine}, Stepping mode depth v → v.program = program →
      v.program.get? v.process.pc.line = some line →
        ((∃ h', Continues (v.execute line) n h' o ∧ h'.process = p') ↔
          Process.Lands program (fun q => mode.isOver q.calls.length depth = true)
            v.process n p' o)) :
    (∃ h', x.RunsOn n h' o ∧ h'.process = p') ↔
      Process.Lands program (fun q => mode.isOver q.calls.length depth = true)
        x.process n p' o := by
  cases hfound : x.program.get? x.process.pc.line with
  | none =>
      simp only [runsOn_of_past hs.running hfound]
      rw [Process.lands_of_ends (Process.advance_of_past (loaded ▸ hfound))]
      refine exists_settled.trans ?_
      rw [finish_process]
  | some line =>
      have hunfinished : x.process.pc.statement = 0 →
          mode.isOver x.process.calls.length depth = false := by
        intro hfirst
        rw [← Bool.not_eq_true]
        exact past line ⟨loaded ▸ hfound, hfirst⟩
      obtain ⟨v, hv, hprocess, hprogram, hruns⟩ := hs.runsOn_unfinished hfound hunfinished
      have hfound' : v.program.get? v.process.pc.line = some line := by
        rw [hprogram, hprocess]
        exact hfound
      have hlands := executes hv (hprogram.trans loaded) hfound'
      rw [hprocess] at hlands
      simp only [hruns]
      exact hlands

/-- What the host does with the statement that it is about to run, and behind it, is what the
program on its own does up to the line where the step lands. -/
theorem execute_lands (hs : Stepping mode depth v) (loaded : v.program = program)
    (found : v.program.get? v.process.pc.line = some line) :
    (∃ h', Continues (v.execute line) n h' o ∧ h'.process = p') ↔
      Process.Lands program (fun q => mode.isOver q.calls.length depth = true)
        v.process n p' o := by
  -- The induction is on the steps still to go; a wait takes none of them.
  induction n using Nat.strongRecOn generalizing v line with
  | ind n ih =>
      have hadvance : v.process.advance program = v.process.step v.program line := by
        rw [← loaded]
        exact Process.advance_of_found found
      have hexecutes := executes_execute v line
      generalize v.execute line = r at hexecutes
      cases hexecutes with
      | ends p step =>
          rw [Process.lands_of_ends (hadvance.trans step)]
          refine exists_settled.trans ?_
          rw [finish_process]
          rfl
      | faults p f step r result =>
          cases result with
          | trapped on => cases on.symm.trans hs.faults
          | fails =>
              rw [Process.lands_of_fails (loaded ▸ found) (hadvance.trans step)]
              refine exists_settled.trans ?_
              rw [finish_process]
              rfl
      | goesOn p step =>
          have hx := hs.moved p
          show (∃ h', (∃ m, n = m + 1 ∧ (v.withProcess p).RunsOn m h' o) ∧ h'.process = p') ↔ _
          by_cases hgoal : ∃ line', p.IsBefore program line' ∧
              mode.isOver p.calls.length depth = true
          · obtain ⟨line', hbefore, hover⟩ := hgoal
            obtain ⟨y, htick, hy⟩ := hx.tick_over (loaded ▸ hbefore) hover
            rw [Process.lands_of_arrives (hadvance.trans step) hbefore hover]
            simp only [runsOn_of_settled hx.running htick rfl]
            constructor
            · rintro ⟨h', ⟨m, rfl, rfl, rfl, rfl⟩, rfl⟩
              exact ⟨rfl, hy, rfl⟩
            · rintro ⟨rfl, rfl, rfl⟩
              exact ⟨y, ⟨0, rfl, rfl, rfl, rfl⟩, hy⟩
          · have hpast : ∀ line', p.IsBefore program line' →
                ¬ mode.isOver p.calls.length depth = true :=
              fun line' hbefore hover => hgoal ⟨line', hbefore, hover⟩
            rw [Process.lands_of_passes (hadvance.trans step) hpast]
            constructor
            · rintro ⟨h', ⟨m, rfl, hrun⟩, hp⟩
              have hrest := runsOn_lands hx loaded hpast (ih m (Nat.lt_succ_self m))
              exact ⟨m, rfl, hrest.1 ⟨h', hrun, hp⟩⟩
            · rintro ⟨m, rfl, hlands⟩
              have hrest := runsOn_lands hx loaded hpast (ih m (Nat.lt_succ_self m))
              obtain ⟨h', hrun, hp⟩ := hrest.2 hlands
              exact ⟨h', ⟨m, rfl, hrun⟩, hp⟩

/-! ## The landing -/

/-- The line hook stops the program on a line, for a breakpoint or because a step is over. -/
inductive StopsOn (d : Debugger Machine) (id : LineId) : Prop where
  | breakpoint (active : d.state ≠ .idle) (arrived : d.throttledLine ≠ some id)
      (mark : d.isMarked id = false) (hit : d.hits id = true)
  | step (active : d.state ≠ .idle) (arrived : d.throttledLine ≠ some id)
      (runtime : Machine) (unbroken : d.Unbroken id runtime)
      (isOver : d.stepIsOver runtime = true)

theorem looks_stopsOn {d d' : Debugger Machine} {id : LineId} (hstops : StopsOn d id)
    (hlooks : Looks d id d') :
    (∃ request, d'.runtime.stop = some request) ∧ d'.state = .paused ∧
      d'.throttledLine = none := by
  cases hlooks with
  | idle asleep => cases hstops <;> exact absurd asleep ‹_›
  | reentry _ waited => cases hstops <;> exact absurd waited ‹_›
  | broken | stepped => exact ⟨⟨_, rfl⟩, rfl, rfl⟩
  | resumed _ _ mark unfinished =>
      cases hstops with
      | breakpoint _ _ hmark => cases mark.symm.trans hmark
      | step _ _ runtime unbroken isOver =>
          cases unbroken with
          | marked => cases isOver.symm.trans unfinished
          | missed hmark => cases mark.symm.trans hmark
  | halted _ _ mark miss unfinished | waits _ _ mark miss unfinished
  | runs _ _ mark miss unfinished =>
      cases hstops with
      | breakpoint _ _ _ hit => cases hit.symm.trans miss
      | step _ _ runtime unbroken isOver =>
          cases unbroken with
          | marked hmark => cases hmark.symm.trans mark
          | missed => cases isOver.symm.trans unfinished

/-- A program that a breakpoint or a step has paused before a line, and that nothing has let go on
since. -/
inductive Held (program : Program) : Host → Prop where
  | stopped {h x h' : Host} {last : Option RunOutcome} {line : SourceLine} {i : Nat}
      {o : RunOutcome} (session : DebugSession program h last) (running : h.finished = false)
      (reach : h.after i = some x) (before : x.process.IsBefore program line)
      (stops : StopsOn x.debugger (.number line.number)) (tick : x.tick = (h', some o)) :
      Held program h'
  | command {h : Host} (held : Held program h) (c : Control)
      (paused : (h.command c).debugger.state = .paused) : Held program (h.command c)

/-- Where a held program stands. -/
structure Holds (program : Program) (h : Host) (line : SourceLine) : Prop where
  coherent : Coherent program h
  running : h.finished = false
  paused : h.debugger.state = .paused
  before : h.process.IsBefore program line
  current : h.debugger.currentLine = .number line.number
  unwaited : h.debugger.throttledLine = none

theorem holds_of_held (held : Held program h) : ∃ line, Holds program h line := by
  induction held with
  | @stopped h x h' last line i o session running reach before stops tick =>
      have hx := (session_coherent session).after reach
      have hlooks := looks_onLine x.debugger (.number line.number)
      have hbefore : x.process.IsBefore x.program line := hx.program ▸ before
      obtain ⟨⟨request, hstop⟩, hpaused, hunwaited⟩ := looks_stopsOn stops hlooks
      have hcurrent := looks_currentLine hlooks
      have hpc := looks_pc hx.keepsPlace hlooks
      have hasked : (x.visit line.number).machine.stop = some request := by
        rw [visit_of_first before.first]
        exact hstop
      have hcoherent := hx.tick
      rw [tick_of_stop hx.keepsPlace hbefore hasked, visit_of_first before.first]
        at tick hcoherent
      cases tick
      exact ⟨line, hcoherent, (after_finished reach).trans running, hpaused,
        before.of_pc hpc, hcurrent, hunwaited⟩
  | @command h held c paused ih =>
      obtain ⟨line, hh⟩ := ih
      have hkept := kept_apply h.debugger c
      refine ⟨line, hh.coherent.kept hkept, hh.running, paused, hh.before.of_pc hkept.pc,
        hkept.current.trans hh.current, ?_⟩
      rcases hkept.throttled with hsame | hnone
      · exact hsame.trans hh.unwaited
      · exact hnone

/-- A step lets the line run before which the program is held, and is then on its way. -/
theorem enters_step (hh : Holds program h line)
    (disabled : h.debugger.breakpoints.All fun bp => bp.enabled = false)
    (faults : h.debugger.breakOnError = false) (speed : h.debugger.speed ≠ 0) (mode : StepMode) :
    ∃ v, (h.command (.step mode)).Enters line v ∧ Stepping mode h.process.calls.length v ∧
      v.process = h.process ∧ v.program = program := by
  have hstep := step_command hh.paused mode
  rw [hh.current] at hstep
  obtain ⟨g, hg⟩ : ∃ g, g = h.command (.step mode) := ⟨_, rfl⟩
  rw [← hg] at hstep ⊢
  have hbefore : g.process.IsBefore g.program line := by
    rw [hstep]
    exact hh.coherent.program ▸ hh.before
  have hvisit : g.visit line.number =
      g.withDebugger (g.debugger.checked (.number line.number) g.machine) := by
    rw [visit_of_first hbefore.first]
    refine congrArg g.withDebugger (looks_marked ?_ ?_ ?_ ?_ (looks_onLine _ _))
    · rw [hstep]
      intro hidle
      cases hidle
    · rw [hstep]
      intro hwaited
      cases hh.unwaited.symm.trans hwaited
    · rw [hstep]
      rfl
    · rw [hstep]
      rfl
  have hfree : (g.visit line.number).machine.stop = none := by
    rw [hvisit, hstep]
    rfl
  refine ⟨g.visit line.number, .visited hbefore hfree, ?_, ?_, ?_⟩
  · rw [hvisit, hstep]
    refine ⟨hh.running, disabled, faults, speed, ?_, rfl, rfl, rfl, rfl, rfl, rfl⟩
    intro hidle
    cases hidle
  · rw [hvisit, hstep]
    rfl
  · rw [hvisit, hstep]
    exact hh.coherent.program

/--
A step from a program that is held before a line, run on over all waits, comes to the outcome that
the program on its own comes to: it lands before the first later line at which the call depth
ends the step, with the process that the program has there, or it ends or fails as the program does
before it gets to such a line.
-/
theorem step_lands (held : Held program h)
    (disabled : h.debugger.breakpoints.All fun bp => bp.enabled = false)
    (faults : h.debugger.breakOnError = false) (speed : h.debugger.speed ≠ 0) (mode : StepMode)
    (n : Nat) (p' : Process) (o : RunOutcome) :
    (∃ h', (h.command (.step mode)).RunsOn n h' o ∧ h'.process = p') ↔
      Process.Lands program (fun q => mode.isOver q.calls.length h.process.calls.length = true)
        h.process n p' o := by
  obtain ⟨line, hh⟩ := holds_of_held held
  obtain ⟨v, henters, hs, hprocess, hprogram⟩ := enters_step hh disabled faults speed mode
  have hcoherent := hh.coherent.kept (kept_apply h.debugger (.step mode))
  have hfound : v.program.get? v.process.pc.line = some line := by
    rw [hprocess, hprogram]
    exact hh.before.found
  have hrunning : (h.command (.step mode)).finished = false := hh.running
  refine (exists_congr fun h' => and_congr_left fun _ =>
    runsOn_of_enters hrunning hcoherent.keepsPlace henters).trans ?_
  rw [execute_lands hs hprogram hfound, hprocess]

/-- A program that calls a subroutine from its first line. -/
def Program.calling : Program :=
  ⟨⟨[(10, ⟨10, "10 gosub 30", 0, 11, ⟨some 10, [.gosub 30]⟩⟩),
      (20, ⟨20, "20 end", 12, 6, ⟨some 20, [.end]⟩⟩),
      (30, ⟨30, "30 return", 19, 9, ⟨some 30, [.return]⟩⟩)], by decide⟩⟩

/-- The calling program, stopped on entry. -/
def Host.entered : Host := ((Host.ofProgram .calling).start true).tick.1

/-- A step over the call lands before the second line, three steps later. -/
theorem step_lands_calling :
    Held .calling entered ∧ (entered.debugger.breakpoints.All fun bp => bp.enabled = false) ∧
      entered.debugger.breakOnError = false ∧ entered.debugger.speed ≠ 0 ∧
      ∃ h', (entered.command (.step .overCalls)).RunsOn 3 h' (.stopped (.number 20) .pause 0) ∧
        h'.process = ⟨⟨1, 0⟩, [], ∅, ""⟩ := by
  have hheld : Held .calling entered := by
    refine .stopped (.start .load true) rfl (show after 0 _ = some _ from rfl) ⟨rfl, rfl⟩
      (.step ?_ ?_ _ (.missed rfl rfl) rfl) rfl
    · intro hidle
      cases hidle
    · intro hwaited
      cases hwaited
  have hdisabled : entered.debugger.breakpoints.All fun bp => bp.enabled = false := by
    intro line bp found
    cases found
  refine ⟨hheld, hdisabled, rfl, Nat.succ_ne_zero 99, ?_⟩
  have hcalled : (⟨⟨0, 0⟩, [], ∅, ""⟩ : Process).advance .calling =
      (⟨⟨2, 0⟩, [⟨10, ⟨0, 1⟩⟩], ∅, ""⟩, .goesOn) := rfl
  have hreturned : (⟨⟨2, 0⟩, [⟨10, ⟨0, 1⟩⟩], ∅, ""⟩ : Process).advance .calling =
      (⟨⟨0, 1⟩, [], ∅, ""⟩, .goesOn) := rfl
  have harrived : (⟨⟨0, 1⟩, [], ∅, ""⟩ : Process).advance .calling =
      (⟨⟨1, 0⟩, [], ∅, ""⟩, .goesOn) := rfl
  refine (step_lands hheld hdisabled rfl (Nat.succ_ne_zero 99) .overCalls 3 _ _).2 ?_
  refine .passes hcalled ?_ (.passes hreturned ?_ (.arrives harrived ⟨rfl, rfl⟩ rfl))
  · intro line before isOver
    cases isOver
  · intro line before isOver
    cases before.first

end LineBasic
