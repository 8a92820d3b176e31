import LineBasic.Proofs.Session

/-!
# Faults that pause the program

With error breakpoints on, a fault pauses the program on the statement that raised it.  A command to
go on leaves a mark for the line of that fault, so that the program can fail when the statement is
run once more and fails again.

The mark is meant for the visit in which the fault was raised, but it is kept by line: it is dropped
when the line hook sees another line, or when a fault passes.  A program that comes back to the line
before it comes to the start of any other still finds the mark there.  A line that jumps to itself
does that, and so does a subroutine of one line that is called again from the middle of the line it
has returned to.  This module proves that this is the only way past the debugger.

## Main definitions

* `Raises`: a statement of a line fails in a run.
* `GoneOn`: the user has gone on from a fault on a line, and the program has come to the start of no
  other line since.

## Main results

* `marked_iff_goneOn`: the mark says exactly that.
* `fault_paused_or_passed`: a fault pauses the program unless the user has gone on from a fault on
  its line, and then it fails; nothing else makes a program fail.
-/

namespace LineBasic

open Debugger Host

variable {program : Program} {h v x : Host} {line : SourceLine} {n i : Nat} {f : Fault}

/-! ## The mark under the line hook -/

namespace Debugger

variable {d d' : Debugger Machine} {id looked : LineId}

/-- A line that is taken note of drops the mark of any other. -/
theorem errorMark_noted :
    (d.noted looked).skipErrorLine = some id ↔ d.skipErrorLine = some id ∧ looked = id := by
  show (if d.skipErrorLine = some looked then d.skipErrorLine else none) = some id ↔ _
  split
  · next hsame =>
      rw [hsame, Option.some.injEq]
      exact ⟨fun hid => ⟨hid, hid⟩, And.left⟩
  · next hother =>
      constructor
      · intro hnone
        cases hnone
      · rintro ⟨hmark, rfl⟩
        exact absurd hmark hother

/-- A look drops the mark of any other line, unless there is no run to follow. -/
theorem looks_errorMark (h : Looks d looked d') :
    d'.skipErrorLine = some id ↔ d.skipErrorLine = some id ∧ (d.state = .idle ∨ looked = id) := by
  have hnoted : d.state ≠ .idle → ((d.noted looked).skipErrorLine = some id ↔
      d.skipErrorLine = some id ∧ (d.state = .idle ∨ looked = id)) := by
    intro active
    rw [errorMark_noted, or_iff_right active]
  cases h with
  | idle asleep => exact ⟨fun hmark => ⟨hmark, .inl asleep⟩, And.left⟩
  | reentry active | broken active | stepped active | resumed active | halted active
  | waits active | runs active => exact hnoted active

/-- A look changes neither the settings for faults nor whether the runtime sends them. -/
theorem looks_trap (tests : d.conditionTest = some evaluatorTest) (h : Looks d looked d') :
    d'.breakOnError = d.breakOnError ∧ d'.runtime.errorTrap = d.runtime.errorTrap := by
  have htested : (d.tested looked).errorTrap = d.runtime.errorTrap := by
    obtain ⟨vars, output, hsame⟩ := tested_evaluator tests looked
    rw [hsame]
  cases h with
  | idle | reentry | resumed => exact ⟨rfl, rfl⟩
  | broken | halted | waits | runs => exact ⟨rfl, htested⟩
  | stepped _ _ runtime unbroken =>
      cases unbroken with
      | marked => exact ⟨rfl, rfl⟩
      | missed => exact ⟨rfl, htested⟩

end Debugger

/-! ## The mark under commands -/

namespace Control

/-- The commands that let a paused program go on. -/
def GoesOn (c : Control) : Prop := c = .resume ∨ ∃ mode, c = .step mode

/-- The commands that take all marks away. -/
def Clears (c : Control) : Prop := c = .reset ∨ c = .restart

end Control

namespace Debugger

variable {d : Debugger Machine} {id : LineId}

/-- Without a run to follow, there is no fault to go on from. -/
def Unfaulted (d : Debugger Machine) : Prop :=
  d.state = .idle → d.lastError = none ∧ d.skipErrorLine = none

theorem unfaulted_of_active (active : d.state ≠ .idle) : d.Unfaulted :=
  fun asleep => absurd asleep active

/-- The mark that a command to go on leaves: that of the fault on which the program is paused, or
else the one that was there. -/
theorem errorMark_or :
    (d.lastError.map ErrorInfo.line).or d.skipErrorLine = some id ↔
      (∃ e, d.lastError = some e ∧ e.line = id) ∨
        (d.lastError = none ∧ d.skipErrorLine = some id) := by
  cases d.lastError <;> simp

/-- The mark behind a command: that of a fault that the command goes on from, or the one that was
there before if the command does not take it away. -/
theorem apply_errorMark (hd : d.Unfaulted) (c : Control) :
    (c.apply d).skipErrorLine = some id ↔
      (c.GoesOn ∧ ∃ e, d.lastError = some e ∧ e.line = id) ∨
        (¬ c.Clears ∧ (c.GoesOn → d.lastError = none) ∧ d.skipErrorLine = some id) := by
  have hgoing : c.GoesOn → ¬ c.Clears →
      ((d.lastError.map ErrorInfo.line).or d.skipErrorLine = some id ↔
        (c.GoesOn ∧ ∃ e, d.lastError = some e ∧ e.line = id) ∨
          (¬ c.Clears ∧ (c.GoesOn → d.lastError = none) ∧ d.skipErrorLine = some id)) := by
    intro hgoes hkeeps
    rw [errorMark_or]
    simp only [hgoes, hkeeps, true_and, not_false_eq_true, true_imp_iff]
  have hkept : (c.apply d).skipErrorLine = d.skipErrorLine → ¬ c.GoesOn → ¬ c.Clears →
      ((c.apply d).skipErrorLine = some id ↔
        (c.GoesOn ∧ ∃ e, d.lastError = some e ∧ e.line = id) ∨
          (¬ c.Clears ∧ (c.GoesOn → d.lastError = none) ∧ d.skipErrorLine = some id)) := by
    intro hsame hstays hkeeps
    rw [hsame]
    simp only [hstays, hkeeps, false_and, false_or, not_false_eq_true, false_imp_iff, true_and]
  cases c with
  | resume => simpa using hgoing (.inl rfl) (by simp [Control.Clears])
  | step mode =>
      by_cases asleep : d.state = .idle
      · obtain ⟨hclear, hunmarked⟩ := hd asleep
        simp [asleep, hclear, hunmarked]
      · simpa [asleep] using hgoing (.inr ⟨mode, rfl⟩) (by simp [Control.Clears])
  | reset | restart => simp [Control.GoesOn, Control.Clears]
  | pause | eval | exec =>
      exact hkept (by simp) (by simp [Control.GoesOn]) (by simp [Control.Clears])
  | setSpeed | setBreakOnError | addBreakpoint | removeBreakpoint | toggleBreakpoint
  | clearBreakpoints | importBreakpoints | writeVariables | takeOutput | detach | subscribe
  | unsubscribe => exact hkept rfl (by simp [Control.GoesOn]) (by simp [Control.Clears])

end Debugger

/-! ## Sleeping debuggers -/

namespace Debugger

variable {d d' : Debugger Machine} {looked : LineId}

/-- A command leaves an unfaulted debugger unfaulted. -/
theorem unfaulted_apply (hd : d.Unfaulted) (c : Control) : (c.apply d).Unfaulted := by
  cases c with
  | pause | resume | restart => exact unfaulted_of_active (by simp)
  | reset => simp [Unfaulted]
  | step mode =>
      by_cases asleep : d.state = .idle
      · simpa [asleep] using hd
      · exact unfaulted_of_active (by simp [asleep])
  | eval | exec => simpa [Unfaulted] using hd
  | setSpeed | setBreakOnError | addBreakpoint | removeBreakpoint | toggleBreakpoint
  | clearBreakpoints | importBreakpoints | writeVariables | takeOutput | detach | subscribe
  | unsubscribe => exact hd

theorem unfaulted_looks (hd : d.Unfaulted) (h : Looks d looked d') : d'.Unfaulted := by
  cases h with
  | idle => exact hd
  | reentry active | resumed active | waits active | runs active => exact unfaulted_of_active active
  | broken | stepped | halted => exact unfaulted_of_active (by simp [paused])

end Debugger

/-- What holds of a host at any moment of a session: it is coherent, and a sleeping debugger has no
fault to go on from. -/
structure Watched (program : Program) (h : Host) : Prop where
  coherent : Coherent program h
  unfaulted : h.debugger.Unfaulted

namespace Watched

theorem command (hw : Watched program h) (c : Control) : Watched program (h.command c) :=
  ⟨hw.coherent.kept (kept_apply _ c), unfaulted_apply hw.unfaulted c⟩

theorem unfaulted_finish (h : Host) : h.finish.debugger.Unfaulted := by
  rw [finish_eq]
  exact fun _ => ⟨rfl, rfl⟩

theorem start (hw : Watched program h) (stopOnEntry : Bool) :
    Watched program (h.start stopOnEntry) := by
  refine ⟨hw.coherent.start stopOnEntry, ?_⟩
  have hfresh : (h.start false).debugger.Unfaulted := by
    rw [start_false]
    exact unfaulted_of_active (by simp)
  cases stopOnEntry with
  | false => exact hfresh
  | true => exact unfaulted_apply hfresh (.step .intoCalls)

theorem tick (hw : Watched program h) : Watched program h.tick.1 := by
  refine ⟨hw.coherent.tick, ?_⟩
  have hticks := ticks_tick hw.coherent.keepsPlace
  generalize h.tick = r at hticks
  cases hticks with
  | past => exact unfaulted_finish h
  | stops line before request asked =>
      rw [visit_of_first before.first]
      have hd := unfaulted_looks hw.unfaulted (looks_onLine h.debugger (.number line.number))
      exact hd
  | runs line v henters =>
      have hv : v.debugger.Unfaulted := by
        cases henters with
        | inside => exact hw.unfaulted
        | visited before =>
            rw [visit_of_first before.first]
            exact unfaulted_looks hw.unfaulted (looks_onLine _ _)
      have hexecutes := executes_execute v line
      generalize v.execute line = r at hexecutes
      cases hexecutes with
      | goesOn p step => exact hv
      | ends p step => exact unfaulted_finish _
      | faults p f step r result =>
          cases result with
          | fails => exact unfaulted_finish _
          | trapped => exact unfaulted_of_active (by simp [withDebugger])

theorem after (hw : Watched program h) (reach : h.after i = some x) : Watched program x :=
  after_of_tick tick hw reach

end Watched

theorem session_watched {last : Option RunOutcome} (session : DebugSession program h last) :
    Watched program h := by
  induction session with
  | load => exact ⟨coherent_ofProgram program, fun _ => ⟨rfl, rfl⟩⟩
  | start session stopOnEntry ih => exact ih.start stopOnEntry
  | command session c ih => exact ih.command c
  | run session result ih => exact run_of_tick Watched.tick ih result

/-! ## The mark in a tick -/

/-- The end of a run takes the mark away. -/
theorem errorMark_finish (g : Host) {P : Prop} :
    g.finish.debugger.skipErrorLine = some (.number n) ↔ g.finish.finished = false ∧ P := by
  rw [finish_eq]
  simp [clearMarks]

/-- Running a statement keeps the mark unless it ends the run. -/
theorem errorMark_execute (running : v.finished = false) {o : Option RunOutcome}
    (result : v.execute line = (x, o)) :
    x.debugger.skipErrorLine = some (.number n) ↔
      x.finished = false ∧ v.debugger.skipErrorLine = some (.number n) := by
  have hexecutes := executes_execute v line
  rw [result] at hexecutes
  cases hexecutes with
  | goesOn p step => exact ⟨fun hmark => ⟨running, hmark⟩, And.right⟩
  | ends p step => exact errorMark_finish _
  | faults p f step r hfaults =>
      cases hfaults with
      | fails => exact errorMark_finish _
      | trapped => exact ⟨fun hmark => ⟨running, hmark⟩, And.right⟩

/-- A line start keeps the mark of its own line. -/
theorem errorMark_visit (hw : Watched program h) (before : h.process.IsBefore h.program line) :
    (h.visit line.number).debugger.skipErrorLine = some (.number n) ↔
      h.debugger.skipErrorLine = some (.number n) ∧ line.number = n := by
  rw [visit_of_first before.first]
  refine (looks_errorMark (looks_onLine _ _)).trans (and_congr_right fun hmark => ?_)
  rw [or_iff_right, LineId.number.injEq]
  intro asleep
  cases hmark.symm.trans (hw.unfaulted asleep).2

/-- Behind a tick, a line is marked if it was marked before, the run is not over, and the program
has not come to the start of another line. -/
theorem errorMark_tick (hw : Watched program h) (running : h.finished = false)
    {o : Option RunOutcome} (tick : h.tick = (x, o)) :
    x.debugger.skipErrorLine = some (.number n) ↔
      x.finished = false ∧ h.debugger.skipErrorLine = some (.number n) ∧
        ∀ line, h.process.IsBefore h.program line → line.number = n := by
  have honly : ∀ {line : SourceLine}, h.process.IsBefore h.program line →
      (line.number = n ↔ ∀ line', h.process.IsBefore h.program line' → line'.number = n) := by
    intro line before
    refine ⟨fun hn line' before' => ?_, fun hall => hall line before⟩
    obtain rfl := Option.some.inj (before'.found.symm.trans before.found)
    exact hn
  have hticks := ticks_tick hw.coherent.keepsPlace
  generalize hr : h.tick = r at hticks
  rw [hr] at tick
  cases hticks with
  | past =>
      cases tick
      exact errorMark_finish h
  | stops line before request asked =>
      cases tick
      have hrunning : (h.visit line.number).takeStop.2.finished = false :=
        (visit_parts h line.number).2.trans running
      rw [← honly before, ← errorMark_visit hw before]
      exact ⟨fun hmark => ⟨hrunning, hmark⟩, And.right⟩
  | runs line v henters =>
      cases henters with
      | inside found inside =>
          rw [errorMark_execute running tick]
          refine and_congr_right fun _ => (and_iff_left ?_).symm
          intro line' before
          exact absurd before.first inside
      | visited before free =>
          rw [errorMark_execute ((visit_parts h line.number).2.trans running) tick,
            errorMark_visit hw before, honly before]

/-- The line on which the program is about to run a statement is marked if it was marked when the
program came there. -/
theorem errorMark_enters (enters : h.Enters line v) :
    v.debugger.skipErrorLine = some (.number line.number) ↔
      h.debugger.skipErrorLine = some (.number line.number) := by
  cases enters with
  | inside => rfl
  | visited before free =>
      rw [visit_of_first before.first]
      exact (looks_errorMark (looks_onLine _ _)).trans (and_iff_left (.inr rfl))

/-! ## Going on from a fault -/

/-- The user has gone on from a fault that had paused the program on the line of the number `n`.
Since then the run is not over, the user has not gone on from another fault, and every line that the
program has come to the start of is that line again. -/
inductive GoneOn (program : Program) (n : Nat) : Host → Prop where
  | goesOn {h : Host} {last : Option RunOutcome} (session : DebugSession program h last)
      {e : ErrorInfo} (paused : h.debugger.lastError = some e) (line : e.line = .number n)
      {c : Control} (goes : c.GoesOn) : GoneOn program n (h.command c)
  | command {h : Host} (before : GoneOn program n h) {c : Control} (keeps : ¬ c.Clears)
      (unfaulted : c.GoesOn → h.debugger.lastError = none) : GoneOn program n (h.command c)
  | tick {h x : Host} {o : Option RunOutcome} (before : GoneOn program n h)
      (running : h.finished = false) (tick : h.tick = (x, o)) (unfinished : x.finished = false)
      (same : ∀ line, h.process.IsBefore h.program line → line.number = n) : GoneOn program n x

/-- Going on from a fault leaves a mark, and the mark stays. -/
theorem GoneOn.marked (hg : GoneOn program n h) :
    Watched program h ∧ h.debugger.skipErrorLine = some (.number n) := by
  induction hg with
  | goesOn session paused line goes =>
      have hw := session_watched session
      exact ⟨hw.command _, (apply_errorMark hw.unfaulted _).2 (.inl ⟨goes, _, paused, line⟩)⟩
  | command before keeps unfaulted ih =>
      obtain ⟨hw, hmark⟩ := ih
      exact ⟨hw.command _, (apply_errorMark hw.unfaulted _).2 (.inr ⟨keeps, unfaulted, hmark⟩)⟩
  | tick before running tick unfinished same ih =>
      obtain ⟨hw, hmark⟩ := ih
      have hx := hw.tick
      rw [tick] at hx
      exact ⟨hx, (errorMark_tick hw running tick).2 ⟨unfinished, hmark, same⟩⟩

/-- A mark behind a tick is that of a fault which the user has gone on from, if it was before. -/
theorem goneOn_tick (hw : Watched program h) (running : h.finished = false)
    (known : h.debugger.skipErrorLine = some (.number n) → GoneOn program n h)
    {o : Option RunOutcome} (tick : h.tick = (x, o))
    (marked : x.debugger.skipErrorLine = some (.number n)) : GoneOn program n x := by
  obtain ⟨hunfinished, hmark, hsame⟩ := (errorMark_tick hw running tick).1 marked
  exact .tick (known hmark) running tick hunfinished hsame

theorem goneOn_after (hw : Watched program h) (running : h.finished = false)
    (known : h.debugger.skipErrorLine = some (.number n) → GoneOn program n h)
    (reach : h.after i = some x) (marked : x.debugger.skipErrorLine = some (.number n)) :
    GoneOn program n x := by
  have hall : Watched program x ∧ x.finished = false ∧
      (x.debugger.skipErrorLine = some (.number n) → GoneOn program n x) := by
    refine after_induction (P := fun g => Watched program g ∧ g.finished = false ∧
      (g.debugger.skipErrorLine = some (.number n) → GoneOn program n g)) ?_
      ⟨hw, running, known⟩ reach
    rintro g y ⟨hg, hrunning, hknown⟩ htick
    have hy := hg.tick
    rw [htick] at hy
    exact ⟨hy, (tick_none htick).2.trans hrunning, goneOn_tick hg hrunning hknown htick⟩
  exact hall.2.2 marked

/-- In a session the mark says on which line the user has gone on from a fault. -/
theorem marked_iff_goneOn {last : Option RunOutcome} (session : DebugSession program h last) :
    h.debugger.skipErrorLine = some (.number n) ↔ GoneOn program n h := by
  refine ⟨?_, fun hg => hg.marked.2⟩
  induction session with
  | load =>
      intro hmark
      cases hmark
  | @start h _ session stopOnEntry ih =>
      intro hmark
      have hfresh : (h.start false).debugger.lastError = none ∧
          (h.start false).debugger.skipErrorLine = none := by
        rw [start_false]
        exact ⟨rfl, rfl⟩
      cases stopOnEntry with
      | false => cases hmark.symm.trans hfresh.2
      | true =>
          have hw := session_watched (session.start false)
          rw [h.start_true] at hmark
          rcases (apply_errorMark hw.unfaulted (.step .intoCalls)).1 hmark with
            ⟨-, e, he, -⟩ | ⟨-, -, hmark⟩
          · cases he.symm.trans hfresh.1
          · cases hmark.symm.trans hfresh.2
  | command session c ih =>
      intro hmark
      rcases (apply_errorMark (session_watched session).unfaulted c).1 hmark with
        ⟨hgoes, e, he, hline⟩ | ⟨hkeeps, hunfaulted, hmark⟩
      · exact .goesOn session he hline hgoes
      · exact .command (ih hmark) hkeeps hunfaulted
  | run session result ih =>
      intro hmark
      have hw := session_watched session
      rcases run_eq_some result with ⟨-, rfl, -⟩ | ⟨hrunning, i, x, hreach, hx⟩
      · exact ih hmark
      · exact goneOn_tick (hw.after hreach) ((after_finished hreach).trans hrunning)
          (goneOn_after hw hrunning ih hreach) hx hmark

/-! ## Faults in a run -/

/-- Error breakpoints are on, and the program sends its faults to the debugger. -/
structure Traps (d : Debugger Machine) : Prop where
  on : d.breakOnError = true
  trap : d.runtime.errorTrap = true

theorem traps_enters (hc : Coherent program h) (ht : Traps h.debugger) (enters : h.Enters line v) :
    Traps v.debugger := by
  cases enters with
  | inside => exact ht
  | visited before free =>
      obtain ⟨hon, htrap⟩ := looks_trap hc.tests (looks_onLine h.debugger (.number line.number))
      rw [visit_of_first before.first]
      exact ⟨hon.trans ht.on, htrap.trans ht.trap⟩

theorem traps_after (hc : Coherent program h) (ht : Traps h.debugger)
    (reach : h.after i = some x) : Traps x.debugger := by
  have hall : Coherent program x ∧ Traps x.debugger := by
    refine after_induction (P := fun g => Coherent program g ∧ Traps g.debugger) ?_ ⟨hc, ht⟩ reach
    rintro g y ⟨hg, htraps⟩ htick
    have hy := hg.tick
    rw [htick] at hy
    refine ⟨hy, ?_⟩
    have hticks := ticks_tick hg.keepsPlace
    generalize hr : g.tick = r at hticks
    rw [hr] at htick
    cases hticks with
    | past => cases htick
    | stops => cases htick
    | runs line v henters =>
        have hexecutes := executes_execute v line
        rw [htick] at hexecutes
        cases hexecutes with
        | goesOn p step =>
            have hv := traps_enters hg htraps henters
            exact ⟨hv.on, hv.trap⟩
  exact hall.2

theorem line_atLine (place : f.line = none) (id : LineId) : (f.atLine id).line = some id := by
  unfold Fault.atLine
  rw [place]
  rfl

/-- The program is paused on a statement of a line that has raised a fault, with no stop asked for
any more. -/
structure PausedOn (pc : Position) (number : Nat) (f : Fault) (h' : Host) : Prop where
  state : h'.debugger.state = .paused
  error : h'.debugger.lastError =
    some (ErrorInfo.ofFault (f.atLine (.number number)) (.number number))
  pc : h'.process.pc = pc
  going : h'.finished = false
  unasked : h'.machine.stop = none

/-- A fault on a line that is not marked pauses the program. -/
theorem handleFault_unmarked (running : v.finished = false) (ht : Traps v.debugger)
    (place : f.line = none) (unmarked : v.debugger.skipErrorLine ≠ some (.number n)) :
    ∃ h', v.handleFault n f = (h', .stopped (.number n) .pause 0) ∧
      PausedOn v.process.pc n f h' := by
  have hline := line_atLine place (.number n)
  have hid : (f.atLine (.number n)).line.getD v.debugger.currentLine = .number n := by
    rw [hline]
    rfl
  have htrap : v.machine.errorTrap = true := ht.trap
  unfold handleFault
  dsimp only
  rw [if_pos htrap, handleError_of_unmarked ht.on (hid.symm ▸ unmarked), pauseWith_eq, hline]
  unfold faulted
  rw [hid]
  exact ⟨_, rfl, rfl, rfl, rfl, running, rfl⟩

/-- A fault on a marked line passes, and the program fails. -/
theorem handleFault_marked (place : f.line = none)
    (marked : v.debugger.skipErrorLine = some (.number n)) :
    ∃ h', v.handleFault n f = (h', .failed (f.atLine (.number n))) := by
  unfold handleFault
  dsimp only
  cases v.machine.errorTrap with
  | false => exact ⟨_, rfl⟩
  | true =>
      rw [if_pos rfl]
      cases hon : v.debugger.breakOnError with
      | false =>
          rw [handleError_of_off hon]
          exact ⟨_, rfl⟩
      | true =>
          have hplace := line_atLine place (.number n)
          rw [handleError_of_mark hon (by rw [hplace]; exact marked)]
          exact ⟨_, rfl⟩

/-- A statement of a line raises a fault in a run, `i` ticks into it and with the host as `x`. -/
structure Raises (h : Host) (i : Nat) (x : Host) (line : SourceLine) (f : Fault) : Prop where
  reach : h.after i = some x
  raised : ∃ v p, x.Enters line v ∧ v.process.step v.program line = (p, .fails f)

/-- A run fails in a tick in which a statement does. -/
theorem raises_of_failed (hc : Coherent program x) {h' : Host} {g : Fault}
    (tick : x.tick = (h', some (.failed g))) :
    ∃ line v p f, x.Enters line v ∧ v.process.step v.program line = (p, .fails f) ∧
      (v.withProcess p).handleFault line.number f = (h', .failed g) := by
  have hticks := ticks_tick hc.keepsPlace
  generalize hr : x.tick = r at hticks
  rw [hr] at tick
  cases hticks with
  | past => cases tick
  | stops => cases tick
  | runs line v henters =>
      have hexecutes := executes_execute v line
      generalize hexecuted : v.execute line = r at hexecutes
      rw [hexecuted] at tick
      cases hexecutes with
      | goesOn => cases tick
      | ends => cases tick
      | faults p f step r result =>
          refine ⟨line, v, p, f, henters, step, ?_⟩
          have hboth := (execute_of_fails step).symm.trans (hexecuted.trans tick)
          obtain ⟨hhost, houtcome⟩ := Prod.mk.inj hboth
          exact Prod.ext hhost (Option.some.inj houtcome)

/--
With error breakpoints on, a fault in a run pauses the program on the statement that raised it,
unless the user has gone on from a fault on its line and the program has come to the start of no
other line since.  In that case the program fails, and only in that case does it fail at all.
-/
theorem fault_paused_or_passed {last : Option RunOutcome} (session : DebugSession program h last)
    (running : h.finished = false) (on : h.debugger.breakOnError = true)
    (trap : h.machine.errorTrap = true) :
    (∀ i x line f, Raises h i x line f →
      (¬ GoneOn program line.number x →
        ∃ h', h.run (i + 1) = some (h', .stopped (.number line.number) .pause 0) ∧
          PausedOn x.process.pc line.number f h') ∧
      (GoneOn program line.number x →
        ∃ h', h.run (i + 1) = some (h', .failed (f.atLine (.number line.number))))) ∧
    (∀ fuel h' g, h.run fuel = some (h', .failed g) →
      ∃ i x line f, Raises h i x line f ∧ g = f.atLine (.number line.number) ∧
        GoneOn program line.number x) := by
  have hw := session_watched session
  have htraps : ∀ {i x line v}, h.after i = some x → x.Enters line v → Traps v.debugger :=
    fun reach enters => traps_enters (hw.after reach).coherent
      (traps_after hw.coherent ⟨on, trap⟩ reach) enters
  have hmark : ∀ {i x line v}, h.after i = some x → x.Enters line v →
      (v.debugger.skipErrorLine = some (.number line.number) ↔
        GoneOn program line.number x) := by
    intro i x line v reach enters
    rw [errorMark_enters enters]
    exact ⟨goneOn_after hw running (marked_iff_goneOn session).1 reach, fun hg => hg.marked.2⟩
  have hhandles : ∀ {i x line v p f}, h.after i = some x → x.Enters line v →
      v.process.step v.program line = (p, .fails f) →
      (¬ GoneOn program line.number x → ∃ h', (v.withProcess p).handleFault line.number f =
          (h', .stopped (.number line.number) .pause 0) ∧
            PausedOn x.process.pc line.number f h') ∧
      (GoneOn program line.number x → ∃ h', (v.withProcess p).handleFault line.number f =
          (h', .failed (f.atLine (.number line.number)))) := by
    intro i x line v p f reach enters step
    have hplace := Process.step_fault_line step
    have hsets := htraps reach enters
    have hp : Traps (v.withProcess p).debugger := ⟨hsets.on, hsets.trap⟩
    rw [← hmark reach enters]
    constructor
    · intro hunmarked
      have hrunning : (v.withProcess p).finished = false :=
        (enters_finished enters).trans ((after_finished reach).trans running)
      obtain ⟨h', hfault, hpaused⟩ := handleFault_unmarked hrunning hp hplace hunmarked
      have hpc : (v.withProcess p).process.pc = x.process.pc :=
        (Process.step_fails_pc step).trans (enters_pc (hw.after reach).coherent.keepsPlace enters)
      rw [hpc] at hpaused
      exact ⟨h', hfault, hpaused⟩
    · exact handleFault_marked (v := v.withProcess p) hplace
  constructor
  · rintro i x line f ⟨reach, v, p, enters, step⟩
    have hrun : h.run (i + 1) = some ((v.withProcess p).handleFault line.number f) := by
      rw [run_of_unfinished running, runFor_add reach, runFor,
        tick_of_enters (hw.after reach).coherent.keepsPlace enters, execute_of_fails step]
    obtain ⟨hpauses, hpasses⟩ := hhandles reach enters step
    rw [hrun]
    constructor
    · intro hfresh
      obtain ⟨h', hfault, hpaused⟩ := hpauses hfresh
      exact ⟨h', congrArg some hfault, hpaused⟩
    · intro hgone
      obtain ⟨h', hfault⟩ := hpasses hgone
      exact ⟨h', congrArg some hfault⟩
  · intro fuel h' g hrun
    rw [run_of_unfinished running] at hrun
    obtain ⟨i, x, reach, htick⟩ := runFor_eq_some hrun
    obtain ⟨line, v, p, f, enters, step, hfault⟩ :=
      raises_of_failed (hw.after reach).coherent htick
    obtain ⟨hpauses, hpasses⟩ := hhandles reach enters step
    have hgone : GoneOn program line.number x := by
      refine Classical.not_not.1 fun hfresh => ?_
      obtain ⟨y, hstopped, -⟩ := hpauses hfresh
      cases hstopped.symm.trans hfault
    obtain ⟨y, hfailed⟩ := hpasses hgone
    cases hfailed.symm.trans hfault
    exact ⟨i, x, line, f, ⟨reach, v, p, enters, step⟩, rfl, hgone⟩

/-! ## One fault, gone on from and raised again -/

/-- A program of one line that fails while it has no variables, and else forgets them and starts
over. -/
def Program.forgetful : Program :=
  ⟨⟨[(10, ⟨10, "10 if a then clear: goto 10 else return", 0, 38,
    ⟨some 10, [.ifThenElse (.var ⟨"aR", .number⟩) (.statements [.clear, .goto 10])
      (.statements [.return])]⟩⟩)], List.pairwise_singleton _ _⟩⟩

/-- The program, started with error breakpoints on. -/
def Host.guarded : Host := ((Host.ofProgram .forgetful).command (.setBreakOnError true)).start false

/-- The program, paused on its fault, with the variable that it lacked. -/
def Host.repaired : Host :=
  guarded.tick.1.command (.writeVariables (Table.insert ∅ "aR" (.number 1.0)))

/-- The first fault pauses the program.  It is repaired and gone on from, the line runs through and
comes back to itself, and there the second fault passes. -/
theorem fault_paused_or_passed_forgetful :
    (DebugSession .forgetful guarded none ∧ guarded.finished = false ∧
      guarded.debugger.breakOnError = true ∧ guarded.machine.errorTrap = true ∧
      ∃ h', guarded.run 1 = some (h', .stopped (.number 10) .pause 0) ∧
        PausedOn ⟨0, 0⟩ 10 (.ofKind .unexpectedReturn) h') ∧
    (DebugSession .forgetful (repaired.command .resume) (some (.stopped (.number 10) .pause 0)) ∧
      ∃ h', (repaired.command .resume).run 2 =
        some (h', .failed ((Fault.ofKind .unexpectedReturn).atLine (.number 10)))) := by
  have hguarded : DebugSession .forgetful guarded none :=
    .start (.command .load (.setBreakOnError true)) false
  have hrepaired : DebugSession .forgetful repaired (some (.stopped (.number 10) .pause 0)) :=
    .command (.run hguarded (show run 1 _ = some _ from rfl)) _
  have hfirst : Raises guarded 0 guarded _ (.ofKind .unexpectedReturn) :=
    ⟨rfl, _, _, .visited ⟨rfl, rfl⟩ rfl, rfl⟩
  have hsecond : Raises (repaired.command .resume) 1 (repaired.command .resume).tick.1 _
      (.ofKind .unexpectedReturn) :=
    ⟨rfl, _, _, .visited ⟨rfl, rfl⟩ rfl, rfl⟩
  have hgone : GoneOn .forgetful 10 (repaired.command .resume).tick.1 := by
    refine .tick (.goesOn hrepaired rfl rfl (.inl rfl)) rfl rfl rfl ?_
    intro line hbefore
    cases hbefore.found
    rfl
  refine ⟨⟨hguarded, rfl, rfl, rfl, ?_⟩, .command hrepaired .resume, ?_⟩
  · refine ((fault_paused_or_passed hguarded rfl rfl rfl).1 0 guarded _ _ hfirst).1 fun hg => ?_
    cases hg.marked.2
  · exact ((fault_paused_or_passed (.command hrepaired .resume) rfl rfl rfl).1 1 _ _ _ hsecond).2
      hgone

end LineBasic
