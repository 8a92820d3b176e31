import LineBasic.Proofs.Session

/-!
# Arrivals at a breakpoint

A run that arrives at a line with a breakpoint stops there, and a command to go on lets the line
run.  A mark tells the two visits apart: `resume` and the steps leave it for the line on which the
program is paused, and the next line that is checked spends it.

Going on does not always come to a check.  Behind a fault the program goes on inside its line, and a
line before which it waited for its speed is not checked again.  The mark then outlives the visit it
was left for, and the next arrival at its line is taken for that visit.  This module proves that
nothing else swallows an arrival, and when exactly the mark does.

## Main definitions

* `PassesOver`: the line hook finds its line marked, and nothing else stops the program.
* `Arrives`: a run comes to a line, or starts with it.
* `Swallowed`: an arrival is taken for a visit that was reported before.

## Main results

* `marked_after`: a mark lives until a line is checked.
* `tick_of_breakpoint`, `tick_of_passesOver`: a line with a breakpoint stops the program unless it
  is passed over, and then it runs.
* `breakpoint_visits`: an arrival stops the program unless it is swallowed, and after the stop
  `resume` and the steps let the line run.
-/

namespace LineBasic

open Debugger Host

variable {program : Program} {h x : Host} {line : SourceLine} {i n : Nat}

/-! ## The life of a mark -/

/-- Behind a tick without an outcome the program waits for no line. -/
theorem throttledLine_tick (hc : Coherent program h) (tick : h.tick = (x, none)) :
    x.debugger.throttledLine = none := by
  have hticks := ticks_tick hc.keepsPlace
  generalize hr : h.tick = r at hticks
  rw [hr] at tick
  cases hticks with
  | past isOver => cases tick
  | stops line before request asked => cases tick
  | runs line v henters =>
      have hexecutes := executes_execute v line
      rw [tick] at hexecutes
      cases hexecutes with
      | goesOn p step => exact (hc.enters henters).2

/-- Behind the first tick of a run the program waits for no line. -/
theorem throttledLine_after (hc : Coherent program h) (reach : h.after (i + 1) = some x) :
    x.debugger.throttledLine = none := by
  induction i generalizing h with
  | zero =>
      rw [Host.after] at reach
      split at reach
      · next g hg =>
          cases reach
          exact throttledLine_tick hc hg
      · cases reach
  | succ i ih =>
      rw [Host.after] at reach
      split at reach
      · next g hg =>
          have hcoherent := hc.tick
          rw [hg] at hcoherent
          exact ih hcoherent reach
      · cases reach

/-- A check of a numbered line spends the mark, and without a check it stays. -/
theorem looks_skipBreakpoint {d d' : Debugger Machine} (active : d.state ≠ .idle)
    (h : Looks d (.number n) d') :
    (d.throttledLine = some (.number n) → d'.skipBreakpoint = d.skipBreakpoint) ∧
      (d.throttledLine ≠ some (.number n) → d'.skipBreakpoint = none) := by
  cases h with
  | idle asleep => exact absurd asleep active
  | reentry _ waited => exact ⟨fun _ => rfl, fun hother => absurd waited hother⟩
  | broken _ arrived | stepped _ arrived | resumed _ arrived | halted _ arrived
  | waits _ arrived | runs _ arrived => exact ⟨fun hwaited => absurd hwaited arrived, fun _ => rfl⟩

/-- A tick without an outcome spends the mark if the line hook checks a line in it, and does nothing
to it otherwise. -/
theorem skipBreakpoint_tick (hc : Coherent program h) (active : h.debugger.state ≠ .idle)
    (tick : h.tick = (x, none)) :
    x.debugger.state ≠ .idle ∧
      (h.IsChecked → x.debugger.skipBreakpoint = none) ∧
      (¬ h.IsChecked → x.debugger.skipBreakpoint = h.debugger.skipBreakpoint) := by
  have hticks := ticks_tick hc.keepsPlace
  generalize hr : h.tick = r at hticks
  rw [hr] at tick
  cases hticks with
  | past isOver => cases tick
  | stops line before request asked => cases tick
  | runs line v henters =>
      have hexecutes := executes_execute v line
      rw [tick] at hexecutes
      cases hexecutes with
      | goesOn p step =>
          cases henters with
          | inside found inside =>
              refine ⟨active, ?_, fun _ => rfl⟩
              intro hchecked
              exact absurd ((isChecked_iff found).1 hchecked).1 inside
          | visited before free =>
              have hlooks := looks_onLine h.debugger (.number line.number)
              rw [visit_of_first before.first]
              have hchecks := isChecked_iff before.found
              obtain ⟨hkept, hspent⟩ := looks_skipBreakpoint active hlooks
              refine ⟨fun hidle => active ((looks_state hlooks).1 hidle), ?_, ?_⟩
              · intro hchecked
                exact hspent (hchecks.1 hchecked).2
              · intro hunchecked
                refine hkept (Classical.not_not.1 fun hother => ?_)
                exact hunchecked (hchecks.2 ⟨before.first, hother⟩)

/-- A mark is there after some ticks if it was there before and no line was checked since. -/
theorem marked_after (hc : Coherent program h) (active : h.debugger.state ≠ .idle)
    (reach : h.after i = some x) :
    x.debugger.state ≠ .idle ∧
      (x.debugger.skipBreakpoint = some n ↔ h.debugger.skipBreakpoint = some n ∧
        ∀ j < i, ∀ y, h.after j = some y → ¬ y.IsChecked) := by
  induction i generalizing h with
  | zero =>
      cases reach
      refine ⟨active, fun hmark => ⟨hmark, ?_⟩, fun hmark => hmark.1⟩
      intro j hj
      exact absurd hj (Nat.not_lt_zero j)
  | succ i ih =>
      rw [Host.after] at reach
      split at reach
      · next g hg =>
          have hcoherent := hc.tick
          rw [hg] at hcoherent
          obtain ⟨hactive, hspent, hkept⟩ := skipBreakpoint_tick hc active hg
          obtain ⟨hx, hmark⟩ := ih hcoherent hactive reach
          have hfirst : h.after 0 = some h := rfl
          have hnext : ∀ j, h.after (j + 1) = g.after j := by
            intro j
            rw [Host.after, hg]
          refine ⟨hx, hmark.trans ?_⟩
          by_cases hchecked : h.IsChecked
          · rw [hspent hchecked]
            constructor
            · rintro ⟨hnone, -⟩
              cases hnone
            · rintro ⟨-, hunchecked⟩
              exact absurd hchecked (hunchecked 0 (Nat.succ_pos i) h hfirst)
          · rw [hkept hchecked]
            refine and_congr_right fun _ => ⟨?_, ?_⟩
            · intro hrest j hj y hy
              cases j with
              | zero =>
                  cases hy
                  exact hchecked
              | succ j =>
                  rw [hnext] at hy
                  exact hrest j (Nat.lt_of_succ_lt_succ hj) y hy
            · intro hall j hj y hy
              exact hall (j + 1) (Nat.succ_lt_succ hj) y ((hnext j).trans hy)
      · cases reach

/-! ## One arrival -/

/-- A breakpoint without a condition hits whenever it is enabled. -/
theorem hits_unconditional {d : Debugger Machine} {bp : Breakpoint}
    (found : d.breakpoints.find? n = some bp) (enabled : bp.enabled = true)
    (unconditional : bp.condition = none) :
    d.hits (.number n) = true ∧ d.tested (.number n) = d.runtime := by
  have hon : d.breakpointOn (.number n) = some bp := found
  unfold hits tested
  rw [hon]
  dsimp only
  rw [enabled, unconditional]
  exact ⟨rfl, rfl⟩

/-- The line hook finds its line marked, and neither a stop asked for nor a step that is over. -/
structure PassesOver (d : Debugger Machine) (n : Nat) : Prop where
  marked : d.skipBreakpoint = some n
  unasked : d.runtime.stop = none
  unfinished : d.stepIsOver d.runtime = false

section Arrival

variable {bp : Breakpoint}

/-- A check of a line with an enabled breakpoint without a condition asks for a pause, unless the
line is passed over. -/
theorem looks_breakpoint {d d' : Debugger Machine} (pauses : d.PausesOnly)
    (active : d.state ≠ .idle) (arrived : d.throttledLine ≠ some (.number n))
    (found : d.breakpoints.find? n = some bp) (enabled : bp.enabled = true)
    (unconditional : bp.condition = none) (hstops : ¬ PassesOver d n)
    (h : Looks d (.number n) d') :
    d'.runtime.stop = some .pause ∧ d'.nextDelay = 0 ∧ d'.state = .paused ∧
      d'.runtime.process = d.runtime.process := by
  obtain ⟨hhits, htested⟩ := hits_unconditional found enabled unconditional
  have hasked : some (StopRequest.merge d.runtime.stop .pause) = some .pause :=
    congrArg some (merge_pause fun request hrequest => (pauses request hrequest).1)
  cases h with
  | idle asleep => exact absurd asleep active
  | reentry _ waited => exact absurd waited arrived
  | broken =>
      rw [htested]
      exact ⟨hasked, rfl, rfl, rfl⟩
  | stepped _ _ runtime unbroken =>
      have hruntime : runtime = d.runtime := by
        cases unbroken with
        | marked => rfl
        | missed => exact htested
      rw [hruntime]
      exact ⟨hasked, rfl, rfl, rfl⟩
  | resumed _ _ mark isOver =>
      have hmark := isMarked_number.1 mark
      cases hstop : d.runtime.stop with
      | none => exact absurd ⟨hmark, hstop, isOver⟩ hstops
      | some request =>
          obtain ⟨rfl, hnone | hpaused⟩ := pauses request hstop
          · cases hmark.symm.trans hnone
          · exact ⟨hstop, rfl, hpaused, rfl⟩
  | halted _ _ _ miss | waits _ _ _ miss | runs _ _ _ miss =>
      rw [hhits] at miss
      cases miss

/-- A line that is passed over runs: no stop is asked for, and the breakpoints count no hit. -/
theorem looks_passesOver {d d' : Debugger Machine} (active : d.state ≠ .idle)
    (hpasses : PassesOver d n) (h : Looks d (.number n) d') :
    d'.runtime = d.runtime ∧ d'.breakpoints = d.breakpoints := by
  by_cases hwaited : d.throttledLine = some (.number n)
  · rw [looks_waited active hwaited h]
    exact ⟨rfl, rfl⟩
  · rw [looks_marked active hwaited hpasses.marked hpasses.unfinished h]
    exact ⟨rfl, rfl⟩

/-- An arrival at a breakpoint that is not passed over ends the run before the line. -/
theorem tick_of_breakpoint (hc : Coherent program x) (active : x.debugger.state ≠ .idle)
    (before : x.process.IsBefore x.program line)
    (arrived : x.debugger.throttledLine ≠ some (.number line.number))
    (found : x.debugger.breakpoints.find? line.number = some bp) (enabled : bp.enabled = true)
    (unconditional : bp.condition = none) (hstops : ¬ PassesOver x.debugger line.number) :
    ∃ x', x.tick = (x', some (.stopped (.number line.number) .pause 0)) ∧
      x'.process = x.process ∧ x'.debugger.state = .paused := by
  obtain ⟨hstop, hdelay, hpaused, hprocess⟩ :=
    looks_breakpoint hc.pauses active arrived found enabled unconditional hstops
      (looks_onLine x.debugger (.number line.number))
  exact ⟨_, tick_of_pause hc.keepsPlace before hstop hdelay, hprocess, hpaused⟩

/-- An arrival that is passed over lets the line run at once. -/
theorem tick_of_passesOver (hc : Coherent program x) (active : x.debugger.state ≠ .idle)
    (before : x.process.IsBefore x.program line)
    (hpasses : PassesOver x.debugger line.number) :
    ∃ v, x.Enters line v ∧ x.tick = v.execute line ∧ v.process = x.process ∧
      v.debugger.breakpoints = x.debugger.breakpoints := by
  obtain ⟨hruntime, hbreakpoints⟩ :=
    looks_passesOver active hpasses (looks_onLine x.debugger (.number line.number))
  have hvisit := visit_of_first before.first line.number
  have hfree : (x.visit line.number).machine.stop = none := by
    rw [hvisit]
    exact (congrArg Machine.stop hruntime).trans hpasses.unasked
  refine ⟨_, .visited before hfree, tick_of_enters hc.keepsPlace (.visited before hfree), ?_, ?_⟩
  · rw [hvisit]
    exact congrArg Machine.process hruntime
  · rw [hvisit]
    exact hbreakpoints

end Arrival

/-! ## Arrivals in a session -/

/-- A run of the host `h` arrives at a line, `i` ticks on and as `x`: the program comes to that line
in this run, or it starts with it. -/
structure Arrives (program : Program) (h : Host) (last : Option RunOutcome) (i : Nat) (x : Host)
    (line : SourceLine) : Prop where
  reach : h.after i = some x
  fresh : 0 < i ∨ last = none
  before : x.process.IsBefore program line

/-- The arrival before which `i` ticks of a run lie is taken for a visit before that run: its line
was marked then, no line has been checked since, and nothing else stops the program. -/
structure Swallowed (h : Host) (i : Nat) (x : Host) (n : Nat) : Prop where
  marked : h.debugger.skipBreakpoint = some n
  unspent : ∀ j < i, ∀ y, h.after j = some y → ¬ y.IsChecked
  unasked : x.machine.stop = none
  unfinished : x.debugger.stepIsOver x.machine = false

theorem swallowed_iff (hc : Coherent program h) (active : h.debugger.state ≠ .idle)
    (reach : h.after i = some x) : Swallowed h i x n ↔ PassesOver x.debugger n := by
  obtain ⟨-, hmark⟩ := marked_after (n := n) hc active reach
  constructor
  · intro hs
    exact ⟨hmark.2 ⟨hs.marked, hs.unspent⟩, hs.unasked, hs.unfinished⟩
  · intro hp
    obtain ⟨hmarked, hunspent⟩ := hmark.1 hp.marked
    exact ⟨hmarked, hunspent, hp.unasked, hp.unfinished⟩

/-- A line at which a run arrives is not waited for. -/
theorem throttledLine_arrival {last : Option RunOutcome} (session : DebugSession program h last)
    (running : h.finished = false) (arrives : Arrives program h last i x line) :
    x.debugger.throttledLine = none := by
  have hreach := arrives.reach
  cases i with
  | succ i => exact throttledLine_after (session_coherent session) hreach
  | zero =>
      rcases arrives.fresh with hlt | rfl
      · exact absurd hlt (Nat.lt_irrefl 0)
      · cases hreach
        rcases session_stands session with hfinished | ⟨-, hnone⟩
        · rw [running] at hfinished
          cases hfinished
        · exact hnone

/-- The commands that let a paused program go on mark the line of the pause. -/
theorem passesOver_command {c : Control} (hgoes : c = .resume ∨ ∃ mode, c = .step mode)
    (paused : h.debugger.state = .paused) (current : h.debugger.currentLine = .number n) :
    (h.command c).debugger.state ≠ .idle ∧ PassesOver (h.command c).debugger n ∧
      (h.command c).process = h.process := by
  have hmark : h.debugger.markOnLeaving = some n := by simp [paused, current, LineId.number?]
  rcases hgoes with rfl | ⟨mode, rfl⟩
  · show h.debugger.resume.state ≠ .idle ∧ PassesOver h.debugger.resume n ∧
      h.debugger.resume.runtime.process = h.process
    rw [resume_eq]
    exact ⟨fun hidle => (nomatch hidle), ⟨hmark, rfl, rfl⟩, rfl⟩
  · have hactive : h.debugger.state ≠ .idle := by simp [paused]
    show (h.debugger.beginStep mode).state ≠ .idle ∧ PassesOver (h.debugger.beginStep mode) n ∧
      (h.debugger.beginStep mode).runtime.process = h.process
    rw [beginStep_eq hactive, if_pos paused]
    exact ⟨fun hidle => (nomatch hidle), ⟨hmark, rfl, rfl⟩, rfl⟩

/-- After a stop before a line, the commands to go on let the line run without another stop. -/
theorem tick_of_goingOn {last : Option RunOutcome} (session : DebugSession program h last)
    (running : h.finished = false) (paused : h.debugger.state = .paused) (stopped : last ≠ none)
    (before : h.process.IsBefore program line) {c : Control}
    (goes : c = .resume ∨ ∃ mode, c = .step mode) :
    ∃ v, (h.command c).Enters line v ∧ (h.command c).tick = v.execute line ∧
      v.process = h.process := by
  have hc := session_coherent session
  rw [← hc.program] at before
  have hcurrent := currentLine_of_stopped session running stopped before.found
  obtain ⟨hactive, hpasses, hprocess⟩ := passesOver_command goes paused hcurrent
  have hbefore : (h.command c).process.IsBefore (h.command c).program line := by
    rw [hprocess]
    exact before
  obtain ⟨v, henters, htick, hv, -⟩ :=
    tick_of_passesOver (hc.kept (kept_apply _ c)) hactive hbefore hpasses
  exact ⟨v, henters, htick, hv.trans hprocess⟩

/--
An arrival at a breakpoint in a session stops the program before the line, paused and with nothing
run, unless it is swallowed; an arrival that is swallowed lets the line run and counts no hit.
After a stop the commands to go on let the line run without another stop.

Behind a reset the debugger is idle and follows no run, so there are no visits to lose.
-/
theorem breakpoint_visits {last : Option RunOutcome} (session : DebugSession program h last)
    (running : h.finished = false) :
    (∀ i x line bp, h.debugger.state ≠ .idle → Arrives program h last i x line →
      x.debugger.breakpoints.find? line.number = some bp → bp.enabled = true →
      bp.condition = none →
        (¬ Swallowed h i x line.number →
          ∃ h', h.run (i + 1) = some (h', .stopped (.number line.number) .pause 0) ∧
            h'.process = x.process ∧ h'.debugger.state = .paused) ∧
        (Swallowed h i x line.number →
          ∃ v, x.Enters line v ∧ x.tick = v.execute line ∧ v.process = x.process ∧
            v.debugger.breakpoints = x.debugger.breakpoints)) ∧
    (∀ line c, h.debugger.state = .paused → last ≠ none → h.process.IsBefore program line →
      (c = .resume ∨ ∃ mode, c = .step mode) →
        ∃ v, (h.command c).Enters line v ∧ (h.command c).tick = v.execute line ∧
          v.process = h.process) := by
  constructor
  · intro i x line bp active arrives found enabled unconditional
    have hc := session_coherent session
    have hx := hc.after arrives.reach
    have hbefore : x.process.IsBefore x.program line := hx.program ▸ arrives.before
    have harrived : x.debugger.throttledLine ≠ some (.number line.number) := by
      rw [throttledLine_arrival session running arrives]
      intro hnone
      cases hnone
    have hactive := (marked_after (n := 0) hc active arrives.reach).1
    have hiff := swallowed_iff (n := line.number) hc active arrives.reach
    constructor
    · intro hstops
      obtain ⟨h', htick, hprocess, hpaused⟩ := tick_of_breakpoint hx hactive hbefore harrived
        found enabled unconditional fun hp => hstops (hiff.2 hp)
      refine ⟨h', ?_, hprocess, hpaused⟩
      rw [run_of_unfinished running, runFor_add arrives.reach, runFor, htick]
    · intro hswallowed
      exact tick_of_passesOver hx hactive hbefore (hiff.1 hswallowed)
  · intro line c paused stopped before goes
    exact tick_of_goingOn session running paused stopped before goes

/-! ## One line that comes back to itself -/

/-- A program that never leaves its only line. -/
def Program.looping : Program :=
  ⟨⟨[(10, ⟨10, "10 goto 10", 0, 10, ⟨some 10, [.goto 10]⟩⟩)], List.pairwise_singleton _ _⟩⟩

/-- The loop, started with a breakpoint on its line. -/
def Host.watched : Host := ((Host.ofProgram .looping).command (.addBreakpoint 10 none)).start false

/-- The loop, paused at its first wait for the lowest speed. -/
def Host.waiting : Host :=
  (((Host.ofProgram .looping).command (.setSpeed 1)).start false).tick.1.command .pause

/-- The loop behind the wait, with a breakpoint that was set during it. -/
def Host.resumed : Host := (Host.waiting.command (.addBreakpoint 10 none)).command .resume

/-- The first line of a run stops it.  Behind a wait the mark of `resume` is still there when the
loop comes back, and the arrival is swallowed. -/
theorem breakpoint_visits_looping :
    (DebugSession .looping watched none ∧ watched.finished = false ∧
      ∃ h', watched.run 1 = some (h', .stopped (.number 10) .pause 0) ∧
        h'.process = watched.process ∧ h'.debugger.state = .paused) ∧
    (DebugSession .looping resumed (some (.stopped (.number 10) .throttle 198)) ∧
      resumed.finished = false ∧ Swallowed resumed 1 resumed.tick.1 10 ∧
      ∃ v : Host, resumed.tick.1.tick = v.execute ⟨10, "10 goto 10", 0, 10, ⟨some 10, [.goto 10]⟩⟩ ∧
        v.debugger.breakpoints = resumed.debugger.breakpoints) := by
  have hwatched : DebugSession .looping watched none :=
    .start (.command .load (.addBreakpoint 10 none)) false
  have hresumed : DebugSession .looping resumed (some (.stopped (.number 10) .throttle 198)) :=
    .command (.command (.command
      (.run (.start (.command .load (.setSpeed 1)) false) (show run 1 _ = some _ from rfl)) .pause)
      (.addBreakpoint 10 none)) .resume
  have hswallowed : Swallowed resumed 1 resumed.tick.1 10 := by
    refine ⟨rfl, ?_, rfl, rfl⟩
    rintro j hj y hy ⟨line, hbefore, hother⟩
    obtain rfl : j = 0 := by omega
    cases hy
    cases hbefore.found
    exact hother rfl
  refine ⟨⟨hwatched, rfl, ?_⟩, hresumed, rfl, hswallowed, ?_⟩
  · refine ((breakpoint_visits hwatched rfl).1 0 watched _ ⟨1, 10, true, none, 0⟩ ?_
      ⟨rfl, .inr rfl, rfl, rfl⟩ rfl rfl rfl).1 ?_
    · intro hidle
      cases hidle
    · intro hs
      cases hs.marked
  · obtain ⟨v, -, htick, -, hbreakpoints⟩ :=
      ((breakpoint_visits hresumed rfl).1 1 resumed.tick.1 _ ⟨1, 10, true, none, 0⟩
        (fun hidle => nomatch hidle) ⟨rfl, .inl Nat.one_pos, rfl, rfl⟩ rfl rfl rfl).2 hswallowed
    exact ⟨v, htick, hbreakpoints⟩

end LineBasic
