import LineBasic.Proofs.BreakpointVisits
import LineBasic.Proofs.TrappedFaults

/-!
# Progress

A program that has stopped and is told to go on runs something before it stops again.  A stop leaves
one of two things behind that see to this.  Behind a wait the debugger knows the line, and lets it
run when the program comes back to it, whatever was commanded in between.  Behind a pause the
command to go on marks the line, and the mark lasts as long as no further command to go on is given
to a program that runs already.

Both need a debugger that follows the run.  A program that is reset while a pause is pending stops
for that pause without being paused, so the command to go on marks nothing, and a breakpoint on the
line stops the program a second time.

## Main definitions

* `Debugger.SameMarks`: what settings and breakpoints leave alone.
* `Debugger.Waits`: the program has waited for its speed before a line.
* `Followed`: the hosts that nobody has reset since their program was started.
* `WasPaused`, `GoesOnLast`: the program was paused among some commands, and the last command to go
  on was given to a paused program.

## Main results

* `waits_commands`, `passesOver_commands`: what commands make of a stop.
* `asksPaused_followed`: who follows a run pauses it for every stop that is no wait.
* `continuation_progresses`: a program that goes on runs a statement before anything else.
* `reset_stops_twice`: a program that was reset may stop again at once.
-/

namespace LineBasic

open Debugger Host

variable {program : Program} {g h h' v x : Host} {line : SourceLine} {c : Control}
  {cs : List Control} {d d' : Debugger Machine} {n : Nat} {last : Option RunOutcome}

/-! ## What commands leave alone -/

namespace Debugger

/-- What a command leaves alone that neither pauses the program nor lets it go on. -/
structure SameMarks (d d' : Debugger Machine) : Prop where
  state : d'.state = d.state
  breakpoint : d'.skipBreakpoint = d.skipBreakpoint
  throttled : d'.throttledLine = d.throttledLine
  stop : d'.runtime.stop = d.runtime.stop
  step : d'.stepIsOver d'.runtime = d.stepIsOver d.runtime
  error : d'.lastError = d.lastError
  errorLine : d'.skipErrorLine = d.skipErrorLine

theorem sameMarks_refl (d : Debugger Machine) : d.SameMarks d := ⟨rfl, rfl, rfl, rfl, rfl, rfl, rfl⟩

theorem sameMarks_atPause {α : Type} (d : Debugger Machine) (purpose : String)
    (snippet : Variables → Answer α) : d.SameMarks (d.atPause purpose snippet).2 := by
  unfold atPause
  split
  · exact sameMarks_refl d
  · split
    · exact sameMarks_refl d
    · exact ⟨rfl, rfl, rfl, rfl, rfl, rfl, rfl⟩

/-- The line whose fault passes once the program goes on. -/
def errorMark (d : Debugger Machine) : Option LineId :=
  (d.lastError.map ErrorInfo.line).or d.skipErrorLine

/-- What a command makes of a debugger if it does not take the marks away. -/
inductive Obeys (d : Debugger Machine) (c : Control) (d' : Debugger Machine) : Prop where
  | pauses (state : d'.state = .paused) (throttled : d'.throttledLine = d.throttledLine)
      (errorMark : d'.errorMark = d.errorMark)
  | goesOn (goes : c.GoesOn) (active : d'.state ≠ .idle)
      (throttled : d'.throttledLine = d.throttledLine) (stop : d'.runtime.stop = none)
      (error : d'.lastError = none) (errorLine : d'.skipErrorLine = d.errorMark)
  | keeps (same : d.SameMarks d')

theorem obeys_apply (d : Debugger Machine) (keeps : ¬ c.Clears) : d.Obeys c (c.apply d) := by
  cases c with
  | pause =>
      show d.Obeys .pause (d.pauseWith .paused none)
      rw [pauseWith_eq]
      exact .pauses rfl rfl rfl
  | resume =>
      show d.Obeys .resume d.resume
      rw [resume_eq]
      exact .goesOn (.inl rfl) (fun hidle => nomatch hidle) rfl rfl rfl rfl
  | step mode =>
      show d.Obeys (.step mode) (d.beginStep mode)
      by_cases hidle : d.state = .idle
      · rw [beginStep_of_idle hidle]
        exact .keeps (sameMarks_refl d)
      · rw [beginStep_eq hidle]
        exact .goesOn (.inr ⟨mode, rfl⟩) (fun hidle => nomatch hidle) rfl rfl rfl rfl
  | reset => exact absurd (.inl rfl) keeps
  | restart => exact absurd (.inr rfl) keeps
  | eval expression => exact .keeps (sameMarks_atPause d _ _)
  | exec statement => exact .keeps (sameMarks_atPause d _ _)
  | setSpeed | setBreakOnError | addBreakpoint | removeBreakpoint | toggleBreakpoint
  | clearBreakpoints | importBreakpoints | writeVariables | takeOutput | detach | subscribe
  | unsubscribe => exact .keeps ⟨rfl, rfl, rfl, rfl, rfl, rfl, rfl⟩

theorem SameMarks.errorMark (same : d.SameMarks d') : d'.errorMark = d.errorMark := by
  unfold Debugger.errorMark
  rw [same.error, same.errorLine]

theorem SameMarks.trans {d'' : Debugger Machine} (first : d.SameMarks d')
    (second : d'.SameMarks d'') : d.SameMarks d'' where
  state := second.state.trans first.state
  breakpoint := second.breakpoint.trans first.breakpoint
  throttled := second.throttled.trans first.throttled
  stop := second.stop.trans first.stop
  step := second.step.trans first.step
  error := second.error.trans first.error
  errorLine := second.errorLine.trans first.errorLine

theorem SameMarks.passesOver (same : d.SameMarks d') (passes : PassesOver d n) :
    PassesOver d' n where
  marked := same.breakpoint.trans passes.marked
  unasked := same.stop.trans passes.unasked
  unfinished := same.step.trans passes.unfinished

/-- The line whose fault passes stays the same: a command to go on only turns the error into a
mark. -/
theorem errorMark_apply (d : Debugger Machine) (keeps : ¬ c.Clears) :
    (c.apply d).errorMark = d.errorMark := by
  cases d.obeys_apply keeps with
  | pauses _ _ hmark => exact hmark
  | goesOn _ _ _ _ herror hmark =>
      unfold errorMark at hmark ⊢
      rw [herror, hmark]
      rfl
  | keeps same => exact same.errorMark

/-! ## Stops that are asked for between runs -/

/-- A stop that is asked for is asked of a paused program. -/
def AsksPaused (d : Debugger Machine) : Prop := d.runtime.stop ≠ none → d.state = .paused

theorem asksPaused_of_none (free : d.runtime.stop = none) : d.AsksPaused :=
  fun asked => absurd free asked

theorem asksPaused_apply (hd : d.AsksPaused) (keeps : ¬ c.Clears) : (c.apply d).AsksPaused := by
  intro hasked
  cases d.obeys_apply keeps with
  | pauses hstate => exact hstate
  | goesOn _ _ _ hfree => exact absurd hfree hasked
  | keeps same =>
      rw [same.stop] at hasked
      exact same.state.trans (hd hasked)

/-- What a look leaves asked for: what was asked for before, a pause of a program that is paused
now, or a wait before the line. -/
theorem looks_asked {line : LineId} (tests : d.conditionTest = some evaluatorTest)
    (pauses : d.PausesOnly) (h : Looks d line d') :
    (d'.runtime.stop = d.runtime.stop ∧ d'.state = d.state) ∨
      (d'.runtime.stop = some .pause ∧ d'.state = .paused) ∨
      (d'.runtime.stop = some .throttle ∧ d'.throttledLine = some line ∧ d'.state ≠ .idle) := by
  have htested : (d.tested line).stop = d.runtime.stop := by
    obtain ⟨vars, output, hsame⟩ := tested_evaluator tests line
    rw [hsame]
  have hpause : some (StopRequest.merge d.runtime.stop .pause) = some .pause :=
    congrArg some (merge_pause fun request hrequest => (pauses request hrequest).1)
  cases h with
  | idle | reentry | resumed => exact .inl ⟨rfl, rfl⟩
  | runs => exact .inl ⟨htested, rfl⟩
  | broken | halted =>
      refine .inr (.inl ⟨?_, rfl⟩)
      show some (StopRequest.merge (d.tested line).stop .pause) = some .pause
      rw [htested]
      exact hpause
  | stepped _ _ runtime unbroken =>
      refine .inr (.inl ⟨?_, rfl⟩)
      have hruntime : runtime.stop = d.runtime.stop := by
        cases unbroken with
        | marked => rfl
        | missed => exact htested
      show some (StopRequest.merge runtime.stop .pause) = some .pause
      rw [hruntime]
      exact hpause
  | waits active =>
      show (some (StopRequest.merge (d.tested line).stop .throttle) = d.runtime.stop ∧ _) ∨ _
      rw [htested]
      cases hstop : d.runtime.stop with
      | none =>
          refine .inr (.inr ⟨?_, rfl, active⟩)
          show some (StopRequest.merge (d.tested line).stop .throttle) = some .throttle
          rw [htested, hstop]
          rfl
      | some request =>
          -- A wait does not displace a pause.
          obtain ⟨rfl, -⟩ := pauses request hstop
          exact .inl ⟨rfl, rfl⟩

/-! ## Behind a wait -/

/-- The program has waited for its speed before the line of a number. -/
structure Waits (d : Debugger Machine) (n : Nat) : Prop where
  line : d.throttledLine = some (.number n)
  active : d.state ≠ .idle
  asks : d.AsksPaused

theorem waits_apply (hw : d.Waits n) (keeps : ¬ c.Clears) : (c.apply d).Waits n := by
  have hasks := asksPaused_apply hw.asks keeps
  cases d.obeys_apply keeps with
  | pauses hstate hline =>
      refine ⟨hline.trans hw.line, ?_, hasks⟩
      rw [hstate]
      exact fun hidle => nomatch hidle
  | goesOn _ hactive hline => exact ⟨hline.trans hw.line, hactive, hasks⟩
  | keeps same =>
      refine ⟨same.throttled.trans hw.line, ?_, hasks⟩
      rw [same.state]
      exact hw.active

end Debugger

/-! ## Commands one after the other -/

theorem waits_commands (hw : h.debugger.Waits n) (keeps : ∀ c ∈ cs, ¬ c.Clears) :
    (h.commands cs).debugger.Waits n := by
  induction cs generalizing h with
  | nil => exact hw
  | cons c rest ih =>
      obtain ⟨hc, hrest⟩ := List.forall_mem_cons.1 keeps
      exact ih (waits_apply hw hc) hrest

theorem errorMark_commands (h : Host) (keeps : ∀ c ∈ cs, ¬ c.Clears) :
    (h.commands cs).debugger.errorMark = h.debugger.errorMark := by
  induction cs generalizing h with
  | nil => rfl
  | cons c rest ih =>
      obtain ⟨hc, hrest⟩ := List.forall_mem_cons.1 keeps
      exact (ih (h.command c) hrest).trans (errorMark_apply h.debugger hc)

/-- Commands that do not let a paused program go on leave it paused. -/
theorem paused_commands (paused : h.debugger.state = .paused) (keeps : ∀ c ∈ cs, ¬ c.Clears)
    (stays : ∀ c ∈ cs, ¬ c.GoesOn) : (h.commands cs).debugger.state = .paused := by
  induction cs generalizing h with
  | nil => exact paused
  | cons c rest ih =>
      obtain ⟨hc, hrest⟩ := List.forall_mem_cons.1 keeps
      obtain ⟨hstay, hstays⟩ := List.forall_mem_cons.1 stays
      refine ih ?_ hrest hstays
      cases h.debugger.obeys_apply hc with
      | pauses hstate => exact hstate
      | goesOn hgoes => exact absurd hgoes hstay
      | keeps same => exact same.state.trans paused

/-- Commands that neither pause a program nor let it go on leave its marks alone. -/
theorem sameMarks_commands (keeps : ∀ c ∈ cs, ¬ c.Clears) (stays : ∀ c ∈ cs, ¬ c.GoesOn)
    (unpaused : (h.commands cs).debugger.state ≠ .paused) :
    h.debugger.SameMarks (h.commands cs).debugger := by
  induction cs generalizing h with
  | nil => exact sameMarks_refl _
  | cons c rest ih =>
      obtain ⟨hc, hrest⟩ := List.forall_mem_cons.1 keeps
      obtain ⟨hstay, hstays⟩ := List.forall_mem_cons.1 stays
      cases h.debugger.obeys_apply hc with
      | pauses hstate => exact absurd (paused_commands (h := h.command c) hstate hrest hstays) unpaused
      | goesOn hgoes => exact absurd hgoes hstay
      | keeps same => exact same.trans (ih hrest hstays unpaused)

/-! ## Stops -/

/-- How a tick stops a run: the line hook leaves a stop asked for, or a fault pauses the program. -/
theorem tick_stopped {id : LineId} {reason : StopReason} {delay : Nat} (hc : Coherent program x)
    (tick : x.tick = (h, some (.stopped id reason delay))) :
    (∃ (line : SourceLine) (request : StopRequest), x.process.IsBefore x.program line ∧
        (x.debugger.onLine (.number line.number)).runtime.stop = some request ∧
        request.reason = reason ∧
        h = (x.withDebugger (x.debugger.onLine (.number line.number))).takeStop.2) ∨
      (h.debugger.state = .paused ∧ reason = .pause ∧ h.finished = x.finished) := by
  have hticks := ticks_tick hc.keepsPlace
  generalize hr : x.tick = r at hticks
  rw [hr] at tick
  cases hticks with
  | past => cases tick
  | stops line before request asked =>
      rw [visit_of_first before.first] at asked tick
      cases tick
      exact .inl ⟨line, request, before, asked, rfl, rfl⟩
  | runs line v henters =>
      have hfinished : v.finished = x.finished := enters_finished henters
      have hexecutes := executes_execute v line
      rw [tick] at hexecutes
      generalize hstop : (h, some (RunOutcome.stopped id reason delay)) = r at hexecutes
      cases hexecutes with
      | goesOn => cases hstop
      | ends => cases hstop
      | faults p f step r result =>
          cases result with
          | fails => cases hstop
          | trapped =>
              cases hstop
              exact .inr ⟨rfl, rfl, hfinished⟩

/-- A run that stops is not over, and stops in its last tick. -/
theorem run_stopped {fuel : Nat} {id : LineId} {reason : StopReason} {delay : Nat}
    (result : g.run fuel = some (h, .stopped id reason delay)) :
    g.finished = false ∧
      ∃ i x, g.after i = some x ∧ x.tick = (h, some (.stopped id reason delay)) := by
  rcases run_eq_some result with ⟨-, -, hfinished⟩ | hlast
  · cases hfinished
  · exact hlast

theorem finished_of_stopped {fuel : Nat} {id : LineId} {reason : StopReason} {delay : Nat}
    (hc : Coherent program g) (result : g.run fuel = some (h, .stopped id reason delay)) :
    h.finished = false := by
  obtain ⟨hrunning, i, x, hreach, htick⟩ := run_stopped result
  have hx : x.finished = false := (after_finished hreach).trans hrunning
  rcases tick_stopped (hc.after hreach) htick with
    ⟨line, request, -, -, -, rfl⟩ | ⟨-, -, hfinished⟩
  · exact hx
  · exact hfinished.trans hx

/-- A run that stops to wait has waited before the line on which the program stands. -/
theorem waits_of_stopped {fuel : Nat} {id : LineId} {delay : Nat} (hg : Coherent program g)
    (result : g.run fuel = some (h, .stopped id .throttle delay)) :
    ∃ line, h.process.IsBefore program line ∧ h.debugger.Waits line.number := by
  obtain ⟨-, i, x, hreach, htick⟩ := run_stopped result
  have hc := hg.after hreach
  rcases tick_stopped hc htick with ⟨line, request, hbefore, hasked, hreason, rfl⟩ | ⟨-, hpause, -⟩
  · have hlooks := looks_onLine x.debugger (.number line.number)
    have hplace := (hbefore.of_pc (looks_pc hc.keepsPlace hlooks))
    rw [hc.program] at hplace
    refine ⟨line, hplace, ?_⟩
    rcases looks_asked hc.tests hc.pauses hlooks with ⟨hsame, -⟩ | ⟨hpause, -⟩ | ⟨-, hline, hactive⟩
    · obtain ⟨rfl, -⟩ := hc.pauses request (hsame.symm.trans hasked)
      cases hreason
    · cases hpause.symm.trans hasked
      cases hreason
    · exact ⟨hline, hactive, asksPaused_of_none rfl⟩
  · cases hpause

/-! ## Runs that are followed -/

/-- The hosts of a session that nobody has reset since the program was started. -/
inductive Followed (program : Program) : Host → Prop where
  | start {h : Host} {last : Option RunOutcome} (session : DebugSession program h last)
      (stopOnEntry : Bool) : Followed program (h.start stopOnEntry)
  | command {h : Host} (followed : Followed program h) {c : Control} (keeps : ¬ c.Clears) :
      Followed program (h.command c)
  | run {h h' : Host} (followed : Followed program h) {fuel : Nat} {o : RunOutcome}
      (result : h.run fuel = some (h', o)) : Followed program h'

theorem asksPaused_finish (h : Host) : h.finish.debugger.AsksPaused := by
  rw [finish_eq]
  exact asksPaused_of_none rfl

theorem asksPaused_tick (hc : Coherent program x) (ha : x.debugger.AsksPaused) :
    x.tick.1.debugger.AsksPaused := by
  have hticks := ticks_tick hc.keepsPlace
  generalize x.tick = r at hticks
  cases hticks with
  | past => exact asksPaused_finish x
  | stops => exact asksPaused_of_none rfl
  | runs line v henters =>
      have hv : v.debugger.AsksPaused := by
        cases henters with
        | inside => exact ha
        | visited before free => exact asksPaused_of_none free
      have hexecutes := executes_execute v line
      generalize v.execute line = r at hexecutes
      cases hexecutes with
      | goesOn => exact hv
      | ends => exact asksPaused_finish _
      | faults p f step r result =>
          cases result with
          | fails => exact asksPaused_finish _
          | trapped => exact asksPaused_of_none rfl

theorem asksPaused_start (h : Host) (stopOnEntry : Bool) :
    (h.start stopOnEntry).debugger.AsksPaused := by
  have hfresh : (h.start false).debugger.AsksPaused := by
    rw [start_false]
    exact asksPaused_of_none rfl
  cases stopOnEntry with
  | false => exact hfresh
  | true => exact asksPaused_apply (c := .step .intoCalls) hfresh (by rintro (h | h) <;> cases h)

/-- Between runs of a program that is followed, only a paused one is asked to stop. -/
theorem asksPaused_followed (followed : Followed program h) :
    Coherent program h ∧ h.debugger.AsksPaused := by
  induction followed with
  | start session stopOnEntry =>
      exact ⟨(session_coherent session).start stopOnEntry, asksPaused_start _ stopOnEntry⟩
  | command _ keeps ih => exact ⟨ih.1.kept (kept_apply _ _), asksPaused_apply ih.2 keeps⟩
  | run _ result ih => exact ⟨ih.1.run result, ih.1.run_keeps asksPaused_tick ih.2 result⟩

/-- A stop of a program that is followed leaves it paused, unless it is a wait. -/
theorem followed_stopped {fuel : Nat} {id : LineId} {reason : StopReason} {delay : Nat}
    (followed : Followed program g) (result : g.run fuel = some (h, .stopped id reason delay)) :
    h.debugger.state = .paused ∨ reason = .throttle := by
  obtain ⟨hc, hasks⟩ := asksPaused_followed followed
  obtain ⟨-, i, x, hreach, htick⟩ := run_stopped result
  have hx := hc.after hreach
  have hasks := hc.after_keeps asksPaused_tick hasks hreach
  rcases tick_stopped hx htick with ⟨line, request, hbefore, hasked, rfl, rfl⟩ | ⟨hpaused, -⟩
  · have hlooks := looks_onLine x.debugger (.number line.number)
    rcases looks_asked hx.tests hx.pauses hlooks with ⟨hsame, hstate⟩ | ⟨-, hpaused⟩ | ⟨hwait, -⟩
    · refine .inl (hstate.trans (hasks ?_))
      rw [← hsame, hasked]
      exact Option.some_ne_none _
    · exact .inl hpaused
    · cases hwait.symm.trans hasked
      exact .inr rfl
  · exact .inl hpaused

/-! ## Going on -/

/-- A program was paused before, among or behind some commands. -/
def WasPaused (h : Host) (cs : List Control) : Prop :=
  ∃ before after, cs = before ++ after ∧ (h.commands before).debugger.state = .paused

/-- The last command to go on among some commands is given to a paused program. -/
def GoesOnLast (h : Host) (cs : List Control) : Prop :=
  ∃ before c after, cs = before ++ c :: after ∧ c.GoesOn ∧ (∀ c' ∈ after, ¬ c'.GoesOn) ∧
    (h.commands before).debugger.state = .paused

/-- A command to go on turns the error on which the program is paused into a mark. -/
theorem skipErrorLine_of_goesOn {id : LineId} (active : d.state ≠ .idle) (goes : c.GoesOn)
    (keeps : ¬ c.Clears) (mark : d.errorMark = some id) :
    (c.apply d).skipErrorLine = some id := by
  refine (apply_errorMark (unfaulted_of_active active) c).2 ?_
  rcases errorMark_or.1 mark with herror | ⟨hnone, hmark⟩
  · exact .inl ⟨goes, herror⟩
  · exact .inr ⟨keeps, fun _ => hnone, hmark⟩

/-- A fault on a line that is marked for it does not stop the program. -/
theorem execute_of_marked (marked : v.debugger.skipErrorLine = some (.number line.number))
    {id : LineId} {reason : StopReason} {delay : Nat} :
    v.execute line ≠ (h', some (.stopped id reason delay)) := by
  intro hstopped
  have hexecutes := executes_execute v line
  generalize hr : v.execute line = r at hexecutes
  rw [hr] at hstopped
  cases hexecutes with
  | goesOn => cases hstopped
  | ends => cases hstopped
  | faults p f step r result =>
      obtain ⟨y, hfailed⟩ := handleFault_marked (v := v.withProcess p)
        (Process.step_fault_line step) marked
      have hexecuted := (execute_of_fails step).symm.trans (hr.trans hstopped)
      rw [hfailed] at hexecuted
      cases hexecuted

/-- Behind the last command to go on of a paused program, the line on which it is paused is passed
over, and so is the fault on which it may be paused. -/
theorem passesOver_commands (session : DebugSession program h last) (running : h.finished = false)
    (stopped : last ≠ none) (found : program.get? h.process.pc.line = some line)
    (keeps : ∀ c ∈ cs, ¬ c.Clears) (gone : GoesOnLast h cs)
    (unpaused : (h.commands cs).debugger.state ≠ .paused) :
    (h.commands cs).debugger.state ≠ .idle ∧ PassesOver (h.commands cs).debugger line.number ∧
      ∀ id, h.debugger.errorMark = some id →
        (h.commands cs).debugger.skipErrorLine = some id := by
  obtain ⟨before, c, after, rfl, goes, stays, paused⟩ := gone
  have hbefore : ∀ c ∈ before, ¬ c.Clears := fun c' hc' => keeps c' (List.mem_append_left _ hc')
  have hc : ¬ c.Clears := keeps c (List.mem_append_right _ List.mem_cons_self)
  have hafter : ∀ c ∈ after, ¬ c.Clears :=
    fun c' hc' => keeps c' (List.mem_append_right _ (List.mem_cons_of_mem _ hc'))
  rw [commands_append] at unpaused ⊢
  have hpaused := session_commands session before
  have hcurrent : (h.commands before).debugger.currentLine = .number line.number := by
    refine currentLine_of_stopped hpaused ((commands_finished h before).trans running) stopped ?_
    rw [(session_coherent hpaused).program, commands_pc]
    exact found
  obtain ⟨hactive, hpasses, -⟩ := passesOver_command goes paused hcurrent
  have hsame : ((h.commands before).command c).debugger.SameMarks
      (((h.commands before).command c).commands after).debugger :=
    sameMarks_commands hafter stays unpaused
  refine ⟨?_, hsame.passesOver hpasses, ?_⟩
  · intro hidle
    exact hactive (hsame.state.symm.trans hidle)
  · intro id hmark
    have hmarked : (h.commands before).debugger.errorMark = some id :=
      (errorMark_commands h hbefore).trans hmark
    refine hsame.errorLine.trans (skipErrorLine_of_goesOn ?_ goes hc hmarked)
    rw [paused]
    exact fun hidle => nomatch hidle

/-- Behind a wait the program goes on with its line. -/
theorem enters_of_waits (before : h.process.IsBefore h.program line)
    (waits : h.debugger.Waits line.number) (unpaused : h.debugger.state ≠ .paused) :
    ∃ v, h.Enters line v := by
  have hfree : h.machine.stop = none :=
    Classical.not_not.1 fun hasked => unpaused (waits.asks hasked)
  exact ⟨_, enters_waited waits.active before waits.line hfree⟩

/--
A run of a session stops.  While the debugger follows the program, the stop is a wait or leaves the
program paused.  Behind such a stop, let commands be given that take no marks away, after which the
debugger runs or steps; if the program was paused meanwhile, the last command to go on was given
while it was.  The next run then begins by running a statement of the line on which the program
stands, or by passing the end of that line.  If the program was paused on a fault of that line, this
does not stop it again: a further fault ends the run.
-/
theorem continuation_progresses {fuel : Nat} {id : LineId} {reason : StopReason} {delay : Nat}
    (session : DebugSession program g last)
    (result : g.run fuel = some (h, .stopped id reason delay)) :
    (Followed program g → h.debugger.state = .paused ∨ reason = .throttle) ∧
    ((h.debugger.state = .paused ∨ reason = .throttle) →
      ∀ cs, (∀ c ∈ cs, ¬ c.Clears) →
        ((h.commands cs).debugger.state = .running ∨ (h.commands cs).debugger.state = .stepping) →
        (WasPaused h cs → GoesOnLast h cs) →
          (h.commands cs).finished = false ∧
          ∃ line v, (h.commands cs).Enters line v ∧ (h.commands cs).tick = v.execute line ∧
            (h.debugger.state = .paused →
              h.debugger.lastError.map ErrorInfo.line = some (.number line.number) →
              ∀ h' id' reason' delay',
                v.execute line ≠ (h', some (.stopped id' reason' delay')))) := by
  refine ⟨fun followed => followed_stopped followed result, ?_⟩
  intro hstop cs keeps goes gone
  have hsession : DebugSession program h (some (.stopped id reason delay)) := .run session result
  have hrunning : h.finished = false := finished_of_stopped (session_coherent session) result
  have hr := session_coherent (session_commands hsession cs)
  have hunpaused : (h.commands cs).debugger.state ≠ .paused := by
    rcases goes with hstate | hstate <;> rw [hstate] <;> exact fun hpaused => nomatch hpaused
  obtain ⟨line, hfound, -⟩ := session_stands hsession
  rw [(session_coherent hsession).program] at hfound
  have hplace : (h.commands cs).program.get? (h.commands cs).process.pc.line = some line := by
    rw [hr.program, commands_pc]
    exact hfound
  have hpassed : h.debugger.state = .paused → _ := fun hpaused =>
    passesOver_commands hsession hrunning (Option.some_ne_none _) hfound keeps
      (gone ⟨[], cs, rfl, hpaused⟩) hunpaused
  have henters : ∃ v, (h.commands cs).Enters line v := by
    by_cases hfirst : (h.commands cs).process.pc.statement = 0
    · rcases Classical.em (h.debugger.state = .paused) with hpaused | hnot
      · obtain ⟨hactive, hpasses, -⟩ := hpassed hpaused
        obtain ⟨v, hv, -⟩ := tick_of_passesOver hr hactive ⟨hplace, hfirst⟩ hpasses
        exact ⟨v, hv⟩
      · obtain rfl := hstop.resolve_left hnot
        obtain ⟨line', hbefore, hwaits⟩ := waits_of_stopped (session_coherent session) result
        obtain rfl : line' = line := Option.some.inj (hbefore.found.symm.trans hfound)
        exact enters_of_waits ⟨hplace, hfirst⟩ (waits_commands hwaits keeps) hunpaused
    · exact ⟨_, .inside hplace hfirst⟩
  obtain ⟨v, hv⟩ := henters
  refine ⟨(commands_finished h cs).trans hrunning, line, v, hv,
    tick_of_enters hr.keepsPlace hv, ?_⟩
  intro hpaused herror h' id' reason' delay'
  obtain ⟨-, -, hmark⟩ := hpassed hpaused
  refine execute_of_marked ((errorMark_enters hv).2 (hmark _ ?_))
  unfold errorMark
  rw [herror]
  rfl

/-! ## A fault gone on from at speed zero -/

/-- The commands behind a fault: the speed falls to zero, a step is asked for, and then a breakpoint
is set on the line that is to run. -/
def Control.hindrances : List Control :=
  [.setSpeed 0, .step .intoCalls, .addBreakpoint 10 none]

/-- None of them keeps the program from running the line that has failed. -/
theorem continuation_progresses_guarded :
    (DebugSession .forgetful guarded none ∧
      guarded.run 1 = some (guarded.tick.1, .stopped (.number 10) .pause 0) ∧
      (∀ c ∈ Control.hindrances, ¬ c.Clears) ∧
      (guarded.tick.1.commands Control.hindrances).debugger.state = .stepping ∧
      GoesOnLast guarded.tick.1 Control.hindrances) ∧
    guarded.tick.1.debugger.state = .paused ∧
      (guarded.tick.1.commands Control.hindrances).finished = false ∧
      ∃ line v, (guarded.tick.1.commands Control.hindrances).Enters line v ∧
        (guarded.tick.1.commands Control.hindrances).tick = v.execute line ∧
        ∀ h' id reason delay, v.execute line ≠ (h', some (.stopped id reason delay)) := by
  have hsession : DebugSession .forgetful guarded none :=
    .start (.command .load (.setBreakOnError true)) false
  have hrun : guarded.run 1 = some (guarded.tick.1, .stopped (.number 10) .pause 0) := rfl
  have hkeeps : ∀ c ∈ Control.hindrances, ¬ c.Clears := by
    simp [Control.hindrances, Control.Clears]
  have hgoes : (guarded.tick.1.commands Control.hindrances).debugger.state = .stepping := rfl
  have hgone : GoesOnLast guarded.tick.1 Control.hindrances := by
    refine ⟨[.setSpeed 0], .step .intoCalls, [.addBreakpoint 10 none], rfl, .inr ⟨_, rfl⟩, ?_, rfl⟩
    simp [Control.GoesOn]
  obtain ⟨hstops, hprogress⟩ := continuation_progresses hsession hrun
  have hfollowed : Followed .forgetful guarded :=
    .start (.command .load (.setBreakOnError true)) false
  obtain ⟨hrunning, line, v, henters, htick, hpasses⟩ :=
    hprogress (hstops hfollowed) _ hkeeps (.inr hgoes) fun _ => hgone
  have hline : line.number = 10 := by
    cases henters with
    | inside found =>
        cases found
        rfl
    | visited before =>
        cases before.found
        rfl
  refine ⟨⟨hsession, hrun, hkeeps, hgoes, hgone⟩, rfl, hrunning, line, v, henters, htick, ?_⟩
  refine hpasses rfl ?_
  rw [hline]
  rfl

/-! ## A reset while a pause is pending -/

/-- A program that has ended when it has begun. -/
def Program.ending : Program :=
  ⟨⟨[(10, ⟨10, "10 end", 0, 6, ⟨some 10, [.end]⟩⟩)], List.pairwise_singleton _ _⟩⟩

/-- The program, started, asked to pause, and reset before it has run. -/
def Host.forsaken : Host := (((Host.ofProgram .ending).start false).command .pause).command .reset

/-- It stops for the pause although the debugger is idle.  Gone on from there, it stops again before
the same line for a breakpoint, and nothing has run. -/
theorem reset_stops_twice :
    DebugSession .ending forsaken none ∧
    forsaken.run 1 = some (forsaken.tick.1, .stopped (.number 10) .pause 0) ∧
    (forsaken.tick.1.commands [.addBreakpoint 10 none, .resume]).debugger.state = .running ∧
    ¬ WasPaused forsaken.tick.1 [.addBreakpoint 10 none, .resume] ∧
    (∃ h', (forsaken.tick.1.commands [.addBreakpoint 10 none, .resume]).run 1 =
      some (h', .stopped (.number 10) .pause 0)) ∧
    ¬ ∃ line v, (forsaken.tick.1.commands [.addBreakpoint 10 none, .resume]).Enters line v := by
  refine ⟨.command (.command (.start .load false) .pause) .reset, rfl, rfl, ?_, ⟨_, rfl⟩, ?_⟩
  · rintro ⟨before, after, hcs, hpaused⟩
    rcases before with _ | ⟨c, _ | ⟨c', _ | ⟨c'', rest⟩⟩⟩ <;> cases hcs <;> cases hpaused
  · rintro ⟨line, v, henters⟩
    cases henters with
    | inside found inside => exact inside rfl
    | visited before free =>
        cases before.found
        cases free

end LineBasic
