import LineBasic.Proofs.ControlState

/-!
# Going on from a pause before a line

The line hook pauses a program before a line for three causes: the breakpoint of the line, the end of
a step, and speed zero.  Once the program is told to go on, its runtime calls the hook for the same
line again, and this second call should let the line run.

The second call knows the line by the mark of the breakpoint that is to be passed over, and this mark
has room for a number only.  So a numbered line is let run whatever the cause and the speed.  A line
with a label leaves no mark, and the second call takes it for a new line: the step that has just
begun does not end on it, but the speed counts it once more.  Where a chunk is one line long the
program then waits, and at speed zero it is paused again, by every command anew.

## Main definitions

* `Debugger.goOn`: the commands by which a paused program goes on.
* `Debugger.PausesBefore`: the line hook pauses the program before a line.
* `Debugger.PausedAt`: what such a pause leaves in the debugger.

## Main results

* `pausesBefore_of_paused`: the three causes are complete.
* `looks_again_number`, `looks_again_label`: the second call for a line.
* `passes_paused_line`: the second call lets the line run, unless it has a label and the speed is
  below five.
* `paused_at_label`: at speed zero no number of commands brings a program past a label.
-/

namespace LineBasic

/-- The state of a program that goes on: with a step, or without one. -/
def DebugState.ofMode : Option StepMode → DebugState
  | none => .running
  | some _ => .stepping

/-- Below speed five a chunk is one line long. -/
theorem Pace.chunk_of_slow {speed : Nat} (slow : speed < 5) :
    (Pace.ofSpeed speed).chunk = some 1 := by
  unfold Pace.ofSpeed maxSpeed
  rw [if_neg (by omega)]
  split
  · rfl
  · show some (speed / 5 + 1) = some 1
    congr 1
    omega

/-- From speed five on a chunk is longer than one line. -/
theorem Pace.one_lt_of_chunk {speed chunk : Nat} (fast : 5 ≤ speed)
    (hchunk : (Pace.ofSpeed speed).chunk = some chunk) : 1 < chunk := by
  unfold Pace.ofSpeed at hchunk
  split at hchunk
  · cases hchunk
  · rw [if_neg (by omega)] at hchunk
    cases hchunk
    omega

namespace Debugger

variable {ρ : Type} [Debuggee ρ] {d d' : Debugger ρ} {line : LineId} {mode : Option StepMode}

/-! ## Pauses before a line -/

/-- Why the line hook pauses a program before a line. -/
inductive PauseCause (d : Debugger ρ) (line : LineId) : Prop where
  /-- The breakpoint of the line hits. -/
  | breakpoint (mark : d.isMarked line = false) (hit : d.hits line = true)
  /-- A step is over. -/
  | step {runtime : ρ} (unbroken : d.Unbroken line runtime) (isOver : d.stepIsOver runtime = true)
  /-- The speed is zero, and the program does not come from a pause on this line. -/
  | halt (mark : d.isMarked line = false) (miss : d.hits line = false)
      (unfinished : d.stepIsOver (d.tested line) = false) (speed : d.speed = 0)

/-- The line hook pauses the program before a line. -/
structure PausesBefore (d : Debugger ρ) (line : LineId) : Prop where
  active : d.state ≠ .idle
  /-- The program does not come back from a wait for its speed. -/
  arrived : d.throttledLine ≠ some line
  cause : d.PauseCause line

/-- The debugger has just paused the program before a line. -/
structure PausedAt (d : Debugger ρ) (line : LineId) : Prop where
  state : d.state = .paused
  current : d.currentLine = line
  unthrottled : d.throttledLine = none
  /-- Behind a breakpoint and a step the lines are counted anew, and at speed zero none are. -/
  counter : d.speed = 0 ∨ d.lineCounter = 0

/-- A program that was not paused before is paused for one of the three causes. -/
theorem pausesBefore_of_paused (before : d.state ≠ .paused) (after : (d.onLine line).state = .paused) :
    d.PausesBefore line := by
  have hlooks := looks_onLine d line
  generalize d.onLine line = d' at hlooks after
  cases hlooks with
  | idle | reentry | resumed | waits | runs => exact absurd after before
  | broken active arrived mark hit => exact ⟨active, arrived, .breakpoint mark hit⟩
  | stepped active arrived runtime unbroken isOver =>
      exact ⟨active, arrived, .step unbroken isOver⟩
  | halted active arrived mark miss unfinished halt =>
      exact ⟨active, arrived, .halt mark miss unfinished halt⟩

/-- Each of the causes pauses the program. -/
theorem PausesBefore.paused (h : d.PausesBefore line) (hd : d.Controlled) :
    (d.onLine line).PausedAt line ∧ (d.onLine line).speed = d.speed := by
  obtain ⟨active, arrived, cause⟩ := h
  have hlooks := looks_onLine d line
  generalize d.onLine line = d' at hlooks
  cases hlooks with
  | idle asleep => exact absurd asleep active
  | reentry _ waited => exact absurd waited arrived
  | broken | stepped => exact ⟨⟨rfl, rfl, rfl, .inr rfl⟩, rfl⟩
  | halted _ _ _ _ _ halt => exact ⟨⟨rfl, rfl, rfl, .inl halt⟩, rfl⟩
  | resumed _ _ marked unfinished =>
      cases cause with
      | breakpoint mark | halt mark => cases mark.symm.trans marked
      | step unbroken isOver =>
          cases unbroken with
          | marked => cases isOver.symm.trans unfinished
          | missed mark => cases mark.symm.trans marked
  | waits _ _ unmarked missed unfinished moves =>
      cases cause with
      | breakpoint _ hit => cases hit.symm.trans missed
      | halt _ _ _ halt => exact absurd halt moves
      | step unbroken isOver =>
          cases unbroken with
          | marked mark => cases mark.symm.trans unmarked
          | missed => cases isOver.symm.trans unfinished
  | runs _ _ unmarked missed unfinished _ unheld =>
      cases cause with
      | breakpoint _ hit => cases hit.symm.trans missed
      | halt _ _ _ halt =>
          have hchunk : d.pace.chunk = some 1 := by
            rw [hd.pace]
            exact Pace.chunk_of_slow (by omega)
          rcases unheld with moves | free
          · exact absurd halt moves
          · cases hchunk.symm.trans free
      | step unbroken isOver =>
          cases unbroken with
          | marked mark => cases mark.symm.trans unmarked
          | missed => cases isOver.symm.trans unfinished

/-! ## The commands -/

/-- A command to go on: to run on, or to make a step. -/
def goOn (d : Debugger ρ) : Option StepMode → Debugger ρ
  | none => d.resume
  | some mode => d.beginStep mode

/-- A debugger that has been told to go on from a pause before a line. -/
structure GoesOnFrom (d : Debugger ρ) (line : LineId) (mode : Option StepMode)
    (d' : Debugger ρ) : Prop where
  state : d'.state = .ofMode mode
  runtime : d'.runtime = Debuggee.clearStop d.runtime
  mark : d'.skipBreakpoint = line.number?
  unthrottled : d'.throttledLine = none
  /-- A step that has just begun does not end on the next line, and without a step none ends. -/
  unfinished : ∀ runtime, d'.stepIsOver runtime = false
  speed : d'.speed = d.speed
  pace : d'.pace = d.pace
  counter : d'.lineCounter = d.lineCounter

theorem PausedAt.goOn (h : d.PausedAt line) (mode : Option StepMode) :
    d.GoesOnFrom line mode (d.goOn mode) := by
  have hmark : d.markOnLeaving = line.number? := by simp [h.state, h.current]
  cases mode with
  | none =>
      show d.GoesOnFrom line none d.resume
      rw [resume_eq]
      exact ⟨rfl, rfl, hmark, h.unthrottled, fun _ => rfl, rfl, rfl, rfl⟩
  | some mode =>
      have active : d.state ≠ .idle := fun asleep => nomatch h.state.symm.trans asleep
      show d.GoesOnFrom line (some mode) (d.beginStep mode)
      rw [beginStep_eq active, if_pos h.state]
      exact ⟨rfl, rfl, hmark, h.unthrottled, fun _ => rfl, rfl, rfl, rfl⟩

theorem GoesOnFrom.active (h : d.GoesOnFrom line mode d') : d'.state ≠ .idle := by
  rw [h.state]
  cases mode <;> nofun

/-! ## The second call -/

/-- A numbered line is let run. -/
theorem looks_again_number {n : Nat} {again : Debugger ρ} (h : d.GoesOnFrom (.number n) mode d')
    (hlooks : Looks d' (.number n) again) :
    again.state = .ofMode mode ∧ again.runtime = d'.runtime := by
  have arrived : d'.throttledLine ≠ some (.number n) := by simp [h.unthrottled]
  rw [looks_marked h.active arrived h.mark (h.unfinished _) hlooks]
  exact ⟨h.state, rfl⟩

/-- What the second call makes of a label is decided by the speed alone. -/
theorem looks_again_label {name : String} {again : Debugger ρ} (hd : d.Controlled)
    (paused : d.PausedAt (.label name)) (h : d.GoesOnFrom (.label name) mode d')
    (hlooks : Looks d' (.label name) again) :
    (d.speed = 0 → again.PausedAt (.label name) ∧ again.speed = 0 ∧
      again.runtime = Debuggee.requestStop d'.runtime .pause) ∧
    (0 < d.speed → d.speed < 5 → again.state = .ofMode mode ∧
      again.runtime = Debuggee.requestStop d'.runtime .throttle) ∧
    (5 ≤ d.speed → again.state = .ofMode mode ∧ again.runtime = d'.runtime) := by
  have hpace : d'.pace = Pace.ofSpeed d.speed := h.pace.trans hd.pace
  have unmarked : d'.isMarked (.label name) = false := by simp [isMarked, h.mark, LineId.number?]
  have missed : d'.hits (.label name) = false := rfl
  have hcounter : d.speed ≠ 0 → d.lineCounter = 0 := paused.counter.resolve_left
  cases hlooks with
  | idle asleep => exact absurd asleep h.active
  | reentry _ waited => cases h.unthrottled.symm.trans waited
  | broken _ _ _ hit => cases missed.symm.trans hit
  | stepped _ _ runtime _ isOver => cases (h.unfinished runtime).symm.trans isOver
  | resumed _ _ marked => cases unmarked.symm.trans marked
  | halted _ _ _ _ _ halt =>
      rw [h.speed] at halt
      refine ⟨fun _ => ⟨⟨rfl, rfl, rfl, .inl (h.speed.trans halt)⟩, h.speed.trans halt, rfl⟩, ?_, ?_⟩
      · omega
      · omega
  | waits _ _ _ _ _ moves chunk pace full =>
      rw [h.speed] at moves
      rw [h.counter, hcounter moves] at full
      rw [hpace] at pace
      refine ⟨fun halt => absurd halt moves, fun _ _ => ⟨h.state, rfl⟩, fun fast => ?_⟩
      have hlong := Pace.one_lt_of_chunk fast pace
      omega
  | runs _ _ _ _ _ counter _ counted =>
      have fast : ¬ d.speed < 5 := by
        intro slow
        have hshort := counted 1 (hpace ▸ Pace.chunk_of_slow slow)
        omega
      refine ⟨?_, ?_, fun _ => ⟨h.state, rfl⟩⟩
      · omega
      · omega

/-! ## A label at speed zero -/

/-- The program is paused before a line at speed zero. -/
structure HaltedAt (d : Debugger ρ) (line : LineId) : Prop where
  controlled : d.Controlled
  paused : d.PausedAt line
  speed : d.speed = 0

/-- A command to go on from a label leads back to the pause. -/
theorem HaltedAt.again {name : String} (h : d.HaltedAt (.label name)) (mode : Option StepMode) :
    ((d.goOn mode).onLine (.label name)).HaltedAt (.label name) := by
  have hgoes := h.paused.goOn mode
  have hlooks := looks_onLine (d.goOn mode) (.label name)
  have hcontrolled : (d.goOn mode).Controlled := by
    cases mode with
    | none => exact controlled_resume h.controlled
    | some mode => exact controlled_beginStep h.controlled mode
  obtain ⟨hpaused, hspeed, -⟩ := (looks_again_label h.controlled h.paused hgoes hlooks).1 h.speed
  exact ⟨controlled_looks hcontrolled hlooks, hpaused, hspeed⟩

/-- At speed zero no number of commands brings a program past a label. -/
theorem paused_at_label {name : String} (h : d.HaltedAt (.label name))
    (modes : List (Option StepMode)) :
    (modes.foldl (fun d mode => (d.goOn mode).onLine (.label name)) d).state = .paused := by
  induction modes generalizing d with
  | nil => exact h.paused.state
  | cons mode modes ih => exact ih (h.again mode)

end Debugger

open Debugger

/--
A program that the line hook has paused before a line is told to go on, and its runtime calls the hook
for the line again.  Then the program goes on and has been asked for no stop, if the line has a number
or the speed is five or more.  Before a line with a label the program is asked to wait at a lower
speed, and at speed zero it is paused again.
-/
theorem passes_paused_line {ρ : Type} [Debuggee ρ] (runtime : ρ) (ops : List (Operation ρ))
    (line : LineId) (mode : Option StepMode)
    (pauses : ((attach runtime).perform ops).PausesBefore line) :
    let d := ((attach runtime).perform ops).onLine line
    let again := (d.goOn mode).onLine line
    d.state = .paused ∧ (d.goOn mode).runtime = Debuggee.clearStop d.runtime ∧
    (line.number?.isSome = true ∨ 5 ≤ d.speed →
      again.state = .ofMode mode ∧ again.runtime = (d.goOn mode).runtime) ∧
    (line.number? = none →
      (d.speed = 0 →
        again.state = .paused ∧
          again.runtime = Debuggee.requestStop (d.goOn mode).runtime .pause) ∧
      (0 < d.speed → d.speed < 5 →
        again.state = .ofMode mode ∧
          again.runtime = Debuggee.requestStop (d.goOn mode).runtime .throttle)) := by
  intro d again
  have hbefore : ((attach runtime).perform ops).Controlled :=
    perform_induction controlled_apply (controlled_attach runtime) ops
  have hd : d.Controlled := controlled_looks hbefore (looks_onLine _ line)
  have hpaused : d.PausedAt line := (pauses.paused hbefore).1
  have hgoes : d.GoesOnFrom line mode (d.goOn mode) := hpaused.goOn mode
  have hlooks : Looks (d.goOn mode) line again := looks_onLine _ line
  refine ⟨hpaused.state, hgoes.runtime, ?_, ?_⟩
  · intro hpasses
    cases line with
    | number n => exact looks_again_number hgoes hlooks
    | label name =>
        rcases hpasses with hnumber | fast
        · cases hnumber
        · exact (looks_again_label hd hpaused hgoes hlooks).2.2 fast
  · intro hlabel
    cases line with
    | number n => cases hlabel
    | label name =>
        obtain ⟨halts, waits, -⟩ := looks_again_label hd hpaused hgoes hlooks
        refine ⟨fun halt => ?_, waits⟩
        obtain ⟨again_paused, -, hruntime⟩ := halts halt
        exact ⟨again_paused.state, hruntime⟩

/-- A debugger at speed zero, in a run. -/
def halting : List (Operation Machine) := [.start, .setSpeed 0]

/-- A program at speed zero is paused before a label, told to go on, and paused there again. -/
theorem passes_paused_line_label :
    ((attach Machine.initial).perform halting).PausesBefore (.label "loop") ∧
      let d := ((attach Machine.initial).perform halting).onLine (.label "loop")
      d.state = .paused ∧ (d.goOn none).state = .running ∧
        ((d.goOn none).onLine (.label "loop")).state = .paused ∧
        ((d.goOn none).onLine (.label "loop")).runtime.stop = some .pause := by
  have pauses : ((attach Machine.initial).perform halting).PausesBefore (.label "loop") :=
    ⟨by decide, by decide, .halt rfl rfl rfl rfl⟩
  obtain ⟨hpaused, hruntime, -, hlabel⟩ :=
    passes_paused_line Machine.initial halting (.label "loop") none pauses
  obtain ⟨hstate, hstop⟩ := (hlabel rfl).1 rfl
  refine ⟨pauses, hpaused, rfl, hstate, ?_⟩
  rw [hstop, hruntime]
  rfl

end LineBasic
