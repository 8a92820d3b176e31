import LineBasic.Proofs.Progress

/-!
# What an outcome says

The caller of a run learns how it came out in three ways: from the outcome, from the state of the
debugger, and from the place at which the program stands.  A front end shows one of them and acts on
another, so they have to agree.

They do while nobody resets the debugger in the middle of a run.  Every pause goes through the one
cell that holds a stop request, and so does every wait; a pause sets the state as well, and a wait
does not.  So an active debugger that finds the cell empty leaves in it exactly what the state says,
and the run takes it out.  That the cell is empty when an active debugger goes on is the invariant
`AsksPaused`: only a paused program is asked to stop between runs.

## Main definitions

* `Debugger.Asks`: what a look asks of a program that was asked for nothing.
* `Agreed`: outcome, debugger and program say the same.

## Main results

* `asks_onLine`: the cases of `Asks` are complete.
* `agreed_tick`: a tick with an outcome agrees with it.
* `outcome_agrees`: a run does.
-/

namespace LineBasic

open Debugger Host

variable {program : Program} {h h' v x : Host} {line : SourceLine} {o : RunOutcome} {n : Nat}

/-! ## The stop that a look asks for -/

/-- Between full speed and a halt, a program waits for some time. -/
theorem Pace.delay_pos {speed chunk : Nat} (slow : (Pace.ofSpeed speed).chunk = some chunk)
    (moves : speed ≠ 0) : 0 < (Pace.ofSpeed speed).delay := by
  unfold Pace.ofSpeed at slow ⊢
  split at slow
  · cases slow
  · next hslow =>
      rw [if_neg hslow, if_neg moves]
      show 0 < (maxSpeed - speed) * 2
      omega

namespace Debugger

variable {d d' : Debugger Machine} {id : LineId}

/-- What a look asks of a program that was asked for nothing. -/
inductive Asks (d d' : Debugger Machine) : Prop where
  | nothing (free : d'.runtime.stop = none) (state : d'.state = d.state)
  | pause (asked : d'.runtime.stop = some .pause) (state : d'.state = .paused)
      (delay : d'.nextDelay = 0)
  | wait (asked : d'.runtime.stop = some .throttle) (state : d'.state = d.state)
      (delay : d'.nextDelay = (Pace.ofSpeed d.speed).delay) (positive : 0 < d'.nextDelay)

theorem looks_speed (h : Looks d id d') : d'.speed = d.speed := by
  cases h <;> rfl

theorem asks_onLine (tests : d.conditionTest = some evaluatorTest) (paced : d.Paced)
    (free : d.runtime.stop = none) (h : Looks d id d') : d.Asks d' := by
  have htested : (d.tested id).stop = none := by
    obtain ⟨vars, output, hsame⟩ := tested_evaluator tests id
    rw [hsame]
    exact free
  have hpause : ∀ m : Machine, m.stop = none →
      (Debuggee.requestStop m .pause).stop = some .pause := by
    intro m hm
    show some (StopRequest.merge m.stop .pause) = _
    rw [hm]
    rfl
  cases h with
  | idle | reentry | resumed => exact .nothing free rfl
  | runs => exact .nothing htested rfl
  | broken | halted => exact .pause (hpause _ htested) rfl rfl
  | stepped _ _ runtime unbroken =>
      refine .pause (hpause runtime ?_) rfl rfl
      cases unbroken with
      | marked => exact free
      | missed => exact htested
  | waits _ _ _ _ _ speed chunk pace =>
      have hpace : d.pace = Pace.ofSpeed d.speed := paced
      have hpositive : 0 < d.pace.delay := by
        rw [hpace] at pace ⊢
        exact Pace.delay_pos pace speed
      refine .wait ?_ rfl (congrArg Pace.delay hpace) hpositive
      show some (StopRequest.merge (d.tested id).stop .throttle) = _
      rw [htested]
      rfl

end Debugger

/-! ## Ticks of an active debugger -/

/-- A run is in progress as it was at `h`: the debugger follows it, and no stop is asked for. -/
structure Underway (program : Program) (h x : Host) : Prop where
  coherent : Coherent program x
  active : x.debugger.state = .running ∨ x.debugger.state = .stepping
  state : x.debugger.state = h.debugger.state
  speed : x.debugger.speed = h.debugger.speed
  unasked : x.machine.stop = none

/-- Outcome, debugger and program say the same behind a run that was as `h` before. -/
structure Agreed (program : Program) (h h' : Host) (o : RunOutcome) : Prop where
  /-- The run has paused just when the debugger is paused. -/
  paused : (∃ id delay, o = .stopped id .pause delay) ↔ h'.debugger.state = .paused
  /-- A pause asks for no wait. -/
  undelayed : ∀ id delay, o = .stopped id .pause delay → delay = 0
  /-- A wait leaves the state alone and is that of the speed. -/
  waits : ∀ id delay, o = .stopped id .throttle delay →
    h'.debugger.state = h.debugger.state ∧
      delay = (Pace.ofSpeed h.debugger.speed).delay ∧ 0 < delay
  /-- A run that is over leaves the debugger idle. -/
  ends : (o = .finished ∨ ∃ f, o = .failed f) →
    h'.debugger.state = .idle ∧ h'.finished = true
  /-- The reported line is the current one, and the program stands on it. -/
  place : ∀ id reason delay, o = .stopped id reason delay →
    h'.debugger.currentLine = id ∧
      ∃ line, program.get? h'.process.pc.line = some line ∧ id = .number line.number
  /-- No stop is asked for any more. -/
  unasked : h'.machine.stop = none

namespace Underway

/-- The debugger is not paused. -/
theorem unpaused (hx : Underway program h x) : x.debugger.state ≠ .paused := by
  rcases hx.active with hstate | hstate <;> rw [hstate] <;> exact nofun

theorem moved (hx : Underway program h x) (unthrottled : x.debugger.throttledLine = none)
    (p : Process) : Underway program h (x.withProcess p) :=
  ⟨hx.coherent.moved unthrottled p, hx.active, hx.state, hx.speed, hx.unasked⟩

/-- A line that the program runs on without a stop leaves the run in progress. -/
theorem enters (hx : Underway program h x) (henters : x.Enters line v) :
    Underway program h v ∧ v.debugger.throttledLine = none := by
  obtain ⟨hv, hnone⟩ := hx.coherent.enters henters
  refine ⟨?_, hnone⟩
  cases henters with
  | inside => exact hx
  | visited before free =>
      have hlooks := looks_onLine x.debugger (.number line.number)
      rw [visit_of_first before.first] at free hv ⊢
      cases asks_onLine hx.coherent.tests hx.coherent.paced hx.unasked hlooks with
      | nothing _ state =>
          exact ⟨hv, state ▸ hx.active, state.trans hx.state,
            (looks_speed hlooks).trans hx.speed, free⟩
      | pause asked | wait asked => cases asked.symm.trans free

theorem tick_none (hx : Underway program h x) (tick : x.tick = (v, none)) :
    Underway program h v := by
  have hticks := ticks_tick hx.coherent.keepsPlace
  rw [tick] at hticks
  generalize hr : (v, none) = r at hticks
  cases hticks with
  | past | stops => cases hr
  | runs line y henters =>
      obtain ⟨hy, hnone⟩ := hx.enters henters
      have hexecutes := executes_execute y line
      rw [← hr] at hexecutes
      cases hexecutes with
      | goesOn p => exact hy.moved hnone p

theorem after (hx : Underway program h x) (reach : x.after n = some v) : Underway program h v :=
  after_induction (fun hg => hg.tick_none) hx reach

end Underway

/-- The end of a run agrees with it. -/
theorem agreed_finish (x : Host) (isOver : o = .finished ∨ ∃ f, o = .failed f) :
    Agreed program h x.finish o := by
  have hstopped : ∀ id reason delay, o ≠ .stopped id reason delay := by
    rintro id reason delay rfl
    rcases isOver with hend | ⟨f, hend⟩ <;> cases hend
  rw [finish_eq]
  exact {
    paused := ⟨fun ⟨id, delay, ho⟩ => absurd ho (hstopped _ _ _), nofun⟩
    undelayed := fun _ _ ho => absurd ho (hstopped _ _ _)
    waits := fun _ _ ho => absurd ho (hstopped _ _ _)
    ends := fun _ => ⟨rfl, rfl⟩
    place := fun _ _ _ ho => absurd ho (hstopped _ _ _)
    unasked := rfl }

/-- A pause on a line of the program agrees with its outcome. -/
theorem agreed_pause (found : program.get? x.process.pc.line = some line)
    (state : x.debugger.state = .paused) (current : x.debugger.currentLine = .number line.number)
    (unasked : x.machine.stop = none) :
    Agreed program h x (.stopped (.number line.number) .pause 0) where
  paused := iff_of_true ⟨_, _, rfl⟩ state
  undelayed := by
    rintro _ _ ⟨⟩
    rfl
  waits := nofun
  ends := by rintro (hover | ⟨f, hover⟩) <;> cases hover
  place := by
    rintro _ _ _ ⟨⟩
    exact ⟨current, line, found, rfl⟩
  unasked := unasked

/-- A wait before a line of the program agrees with its outcome. -/
theorem agreed_wait {delay : Nat} (found : program.get? x.process.pc.line = some line)
    (unpaused : h.debugger.state ≠ .paused) (state : x.debugger.state = h.debugger.state)
    (current : x.debugger.currentLine = .number line.number)
    (paced : delay = (Pace.ofSpeed h.debugger.speed).delay) (positive : 0 < delay)
    (unasked : x.machine.stop = none) :
    Agreed program h x (.stopped (.number line.number) .throttle delay) where
  paused := by
    refine iff_of_false (fun ⟨_, _, ho⟩ => nomatch ho) ?_
    rw [state]
    exact unpaused
  undelayed := nofun
  waits := by
    rintro _ _ ⟨⟩
    exact ⟨state, paced, positive⟩
  ends := by rintro (hover | ⟨f, hover⟩) <;> cases hover
  place := by
    rintro _ _ _ ⟨⟩
    exact ⟨current, line, found, rfl⟩
  unasked := unasked

/-- A tick with an outcome agrees with it. -/
theorem agreed_tick (hx : Underway program h x) (tick : x.tick = (h', some o)) :
    Agreed program h h' o := by
  have hticks := ticks_tick hx.coherent.keepsPlace
  rw [tick] at hticks
  generalize hr : (h', some o) = r at hticks
  cases hticks with
  | past =>
      cases hr
      exact agreed_finish x (.inl rfl)
  | stops line before request asked =>
      have hlooks := looks_onLine x.debugger (.number line.number)
      have hfound := (before.of_pc (looks_pc hx.coherent.keepsPlace hlooks)).found
      have hcurrent := looks_currentLine hlooks
      rw [hx.coherent.program] at hfound
      rw [visit_of_first before.first] at asked hr
      cases hr
      cases asks_onLine hx.coherent.tests hx.coherent.paced hx.unasked hlooks with
      | nothing free => cases free.symm.trans asked
      | pause hasked state delay =>
          obtain rfl : request = .pause := Option.some.inj (asked.symm.trans hasked)
          show Agreed program h _ (.stopped (.number line.number) .pause
            (x.debugger.onLine (.number line.number)).nextDelay)
          rw [delay]
          exact agreed_pause hfound state hcurrent rfl
      | wait hasked state delay positive =>
          obtain rfl : request = .throttle := Option.some.inj (asked.symm.trans hasked)
          refine agreed_wait hfound ?_ (state.trans hx.state) hcurrent ?_ positive rfl
          · rw [← hx.state]
            exact hx.unpaused
          · rw [← hx.speed]
            exact delay
  | runs line v henters =>
      obtain ⟨hv, -⟩ := hx.enters henters
      have hfound := enters_found hx.coherent.keepsPlace henters
      rw [hv.coherent.program] at hfound
      have hexecutes := executes_execute v line
      rw [← hr] at hexecutes
      cases hexecutes with
      | ends p => exact agreed_finish _ (.inl rfl)
      | faults p f step r result =>
          cases result with
          | fails => exact agreed_finish _ (.inr ⟨_, rfl⟩)
          | trapped on bus =>
              refine agreed_pause ?_ rfl rfl rfl
              show program.get? p.pc.line = some line
              rw [Process.step_fails_pc step]
              exact hfound

/--
A program has been started, and since then there were any runs and any commands but a reset and a
new run of the debugger alone; the run is in progress, and the debugger is running or stepping.
However it goes on, the outcome, the debugger and the program agree.
-/
theorem outcome_agrees (followed : Followed program h) (underway : h.finished = false)
    (active : h.debugger.state = .running ∨ h.debugger.state = .stepping) {fuel : Nat}
    (result : h.run fuel = some (h', o)) : Agreed program h h' o := by
  obtain ⟨hc, hasks⟩ := asksPaused_followed followed
  have hunasked : h.machine.stop = none := by
    cases hstop : h.machine.stop with
    | none => rfl
    | some request =>
        have hpaused := hasks fun hnone => nomatch hstop.symm.trans hnone
        rcases active with hstate | hstate <;> cases hstate.symm.trans hpaused
  have hh : Underway program h h := ⟨hc, active, rfl, rfl, hunasked⟩
  rcases run_eq_some result with ⟨hfinished, -, -⟩ | ⟨-, i, x, hreach, htick⟩
  · cases underway.symm.trans hfinished
  · exact agreed_tick (hh.after hreach) htick

/-! ## A step that waits -/

/-- The endless loop at its lowest speed, on a step out of it. -/
def Host.leaving : Host :=
  (((Host.ofProgram .looping).command (.setSpeed 1)).start true).tick.1.command (.step .outOfCall)

/-- The loop comes back to its line, and the run waits for the speed.  The step goes on: the debugger
is stepping as before, on the line before which the program stands. -/
theorem outcome_agrees_leaving :
    (Followed .looping leaving ∧ leaving.finished = false ∧
      (leaving.debugger.state = .running ∨ leaving.debugger.state = .stepping) ∧
      ∃ h', leaving.run 2 = some (h', .stopped (.number 10) .throttle 198)) ∧
    ∃ h', leaving.run 2 = some (h', .stopped (.number 10) .throttle 198) ∧
      h'.debugger.state = .stepping ∧ h'.debugger.currentLine = .number 10 ∧
      h'.machine.stop = none := by
  have hfollowed : Followed .looping leaving :=
    .command (.run (.start (.command .load (.setSpeed 1)) true) (show run 1 _ = some _ from rfl))
      (by simp [Control.Clears])
  obtain ⟨h', hrun⟩ : ∃ h', leaving.run 2 = some (h', .stopped (.number 10) .throttle 198) :=
    ⟨_, rfl⟩
  have hagreed := outcome_agrees hfollowed rfl (.inr rfl) hrun
  exact ⟨⟨hfollowed, rfl, .inr rfl, h', hrun⟩, h', hrun, (hagreed.waits _ _ rfl).1,
    (hagreed.place _ _ _ rfl).1, hagreed.unasked⟩

end LineBasic
