import LineBasic.Proofs.Operations
import LineBasic.Proofs.ThrottleChunks

/-!
# The state of the debugger and its marks

The debugger keeps about ten fields for what it does with the program, and every operation changes
some of them.  They are not independent.  A step has a mode as long as it goes on, an error is kept
as long as the program is paused on it, and a debugger without a run has no marks that a later run
could find.  The counter of lines starts anew with the speed and with each chunk, so that it never
reaches the end of one.

None of this depends on the order of the operations: a pause in the middle of a step keeps the mode
of the step, for instance, and a fault can pause a debugger that follows no run.

## Main definitions

* `Debugger.Controlled`: the fields of a debugger fit together.

## Main results

* `controlled_apply`: every operation keeps `Controlled`.
* `control_state`: what holds after any history.
-/

namespace LineBasic

open Debugger

variable {ρ : Type} {d d' : Debugger ρ} {line : LineId} {f : Fault}

namespace Debugger

/-- The fields of a debugger fit together. -/
structure Controlled (d : Debugger ρ) : Prop where
  stepping : d.state = .stepping → d.stepMode ≠ none
  unstepped : d.state = .running ∨ d.state = .idle → d.stepMode = none
  error : d.lastError ≠ none → d.state = .paused
  asleep : d.state = .idle →
    d.skipBreakpoint = none ∧ d.skipErrorLine = none ∧ d.skipStepCheck = false ∧
      d.throttledLine = none
  speed : d.speed ≤ maxSpeed
  pace : d.pace = Pace.ofSpeed d.speed
  counter : d.lineCounter < d.pace.chunk.getD 1

/-- A counter that starts anew is below any chunk. -/
theorem Controlled.restarted (hd : d.Controlled) : 0 < d.pace.chunk.getD 1 :=
  Nat.zero_lt_of_lt hd.counter

/-- The counter at full speed, at a halt, and in between. -/
theorem Controlled.counter_of_speed (hd : d.Controlled) :
    (d.speed = 0 ∨ d.speed = 100 → d.lineCounter = 0) ∧
      (1 ≤ d.speed → d.speed ≤ 99 →
        ∃ chunk, d.pace.chunk = some chunk ∧ d.lineCounter < chunk) := by
  have hcounter := hd.counter
  rw [hd.pace] at hcounter ⊢
  unfold Pace.ofSpeed maxSpeed at hcounter ⊢
  constructor
  · rintro (hspeed | hspeed)
    · rw [hspeed] at hcounter
      exact Nat.lt_one_iff.1 hcounter
    · rw [hspeed] at hcounter
      exact Nat.lt_one_iff.1 hcounter
  · intro hmoves hslow
    rw [if_neg (by omega), if_neg (by omega)] at hcounter ⊢
    exact ⟨_, rfl, hcounter⟩

/-- A paused debugger may have any mode, mark and error. -/
theorem controlled_paused (state : d'.state = .paused) (speed : d'.speed ≤ maxSpeed)
    (pace : d'.pace = Pace.ofSpeed d'.speed) (counter : d'.lineCounter < d'.pace.chunk.getD 1) :
    d'.Controlled where
  stepping := fun h => nomatch state.symm.trans h
  unstepped := by rintro (h | h) <;> cases state.symm.trans h
  error := fun _ => state
  asleep := fun h => nomatch state.symm.trans h
  speed := speed
  pace := pace
  counter := counter

/-- A look that does not pause the program keeps its state, and its mode, error and speed. -/
theorem Controlled.kept (hd : d.Controlled) (active : d.state ≠ .idle)
    (state : d'.state = d.state) (mode : d'.stepMode = d.stepMode) (error : d'.lastError = d.lastError)
    (speed : d'.speed = d.speed) (pace : d'.pace = d.pace)
    (counter : d'.lineCounter < d.pace.chunk.getD 1) : d'.Controlled where
  stepping := by
    rw [state, mode]
    exact hd.stepping
  unstepped := by
    rw [state, mode]
    exact hd.unstepped
  error := by
    rw [state, error]
    exact hd.error
  asleep := fun h => absurd (state.symm.trans h) active
  speed := speed ▸ hd.speed
  pace := by
    rw [pace, speed]
    exact hd.pace
  counter := pace.symm ▸ counter

theorem controlled_setSpeed (hd : d.Controlled) (speed : Nat) : (d.setSpeed speed).Controlled where
  stepping := hd.stepping
  unstepped := hd.unstepped
  error := hd.error
  asleep := hd.asleep
  speed := Nat.min_le_right _ _
  pace := rfl
  counter := chunk_pos _

variable [Debuggee ρ]

theorem controlled_attach (runtime : ρ) : (attach runtime).Controlled where
  stepping := nofun
  unstepped := fun _ => rfl
  error := fun h => absurd rfl h
  asleep := fun _ => ⟨rfl, rfl, rfl, rfl⟩
  speed := Nat.le_refl _
  pace := rfl
  counter := Nat.one_pos

/-! ## Commands -/

theorem controlled_start (hd : d.Controlled) : d.start.Controlled := by
  rw [start_eq]
  exact {
    stepping := nofun
    unstepped := fun _ => rfl
    error := fun h => absurd rfl h
    asleep := nofun
    speed := hd.speed
    pace := hd.pace
    counter := hd.restarted }

theorem controlled_reset (hd : d.Controlled) : d.reset.Controlled := by
  rw [reset_eq]
  exact {
    stepping := nofun
    unstepped := fun _ => rfl
    error := fun h => absurd rfl h
    asleep := fun _ => ⟨rfl, rfl, rfl, rfl⟩
    speed := hd.speed
    pace := hd.pace
    counter := hd.restarted }

theorem controlled_pauseWith (hd : d.Controlled) (kind : EventKind) (bp : Option Breakpoint) :
    (d.pauseWith kind bp).Controlled := by
  rw [pauseWith_eq]
  exact controlled_paused rfl hd.speed hd.pace hd.counter

theorem controlled_resume (hd : d.Controlled) : d.resume.Controlled := by
  rw [resume_eq]
  exact {
    stepping := nofun
    unstepped := fun _ => rfl
    error := fun h => absurd rfl h
    asleep := nofun
    speed := hd.speed
    pace := hd.pace
    counter := hd.counter }

theorem controlled_beginStep (hd : d.Controlled) (mode : StepMode) :
    (d.beginStep mode).Controlled := by
  rcases Decidable.em (d.state = .idle) with asleep | active
  · rw [beginStep_of_idle asleep]
    exact hd
  · rw [beginStep_eq active]
    exact {
      stepping := fun _ => Option.some_ne_none mode
      unstepped := by rintro (h | h) <;> cases h
      error := fun h => absurd rfl h
      asleep := nofun
      speed := hd.speed
      pace := hd.pace
      counter := hd.counter }

/-! ## Lines and faults -/

theorem controlled_looks (hd : d.Controlled) (h : Looks d line d') : d'.Controlled := by
  cases h with
  | idle =>
      exact ⟨hd.stepping, hd.unstepped, hd.error, hd.asleep, hd.speed, hd.pace, hd.counter⟩
  | reentry active | resumed active => exact hd.kept active rfl rfl rfl rfl rfl hd.counter
  | waits active => exact hd.kept active rfl rfl rfl rfl rfl hd.restarted
  | halted => exact controlled_paused rfl hd.speed hd.pace hd.counter
  | broken | stepped => exact controlled_paused rfl hd.speed hd.pace hd.restarted
  | runs active _ _ _ _ counter _ counted uncounted =>
      refine hd.kept active rfl rfl rfl rfl rfl ?_
      cases hchunk : d.pace.chunk with
      | some chunk => exact (counted chunk hchunk).2
      | none =>
          have hcounter := hd.counter
          rw [hchunk] at hcounter
          rw [uncounted hchunk]
          exact hcounter

theorem controlled_receives {r : Bool × Debugger ρ} (hd : d.Controlled) (h : d.Receives f r) :
    r.2.Controlled := by
  cases h with
  | ignored => exact hd
  | passed =>
      refine ⟨hd.stepping, hd.unstepped, hd.error, fun h => ?_, hd.speed, hd.pace, hd.counter⟩
      obtain ⟨hbreakpoint, -, hstep, hthrottled⟩ := hd.asleep h
      exact ⟨hbreakpoint, rfl, hstep, hthrottled⟩
  | taken =>
      rw [pauseWith_eq]
      exact controlled_paused rfl hd.speed hd.pace hd.counter

/-! ## Histories -/

theorem controlled_atPause {α : Type} (hd : d.Controlled) (purpose : String)
    (snippet : Variables → Answer α) : (d.atPause purpose snippet).2.Controlled := by
  rw [atPause_eq]
  exact ⟨hd.stepping, hd.unstepped, hd.error, hd.asleep, hd.speed, hd.pace, hd.counter⟩

/-- Every operation keeps the fields of a debugger together. -/
theorem controlled_apply (d : Debugger ρ) (op : Operation ρ) (hd : d.Controlled) :
    (op.apply d).Controlled := by
  cases op with
  | start => exact controlled_start hd
  | reset => exact controlled_reset hd
  | pause => exact controlled_pauseWith hd .paused none
  | resume => exact controlled_resume hd
  | step mode => exact controlled_beginStep hd mode
  | onLine line => exact controlled_looks hd (looks_onLine d line)
  | handleError f => exact controlled_receives hd (receives_handleError d f)
  | setSpeed speed => exact controlled_setSpeed hd speed
  | eval | exec => exact controlled_atPause hd _ _
  | detach | setBreakOnError | addBreakpoint | removeBreakpoint | toggleBreakpoint
  | clearBreakpoints | importBreakpoints | setConditionTest | setEvaluator
  | useEvaluatorConditions | setSourceMap | subscribe | unsubscribe | act =>
      exact ⟨hd.stepping, hd.unstepped, hd.error, hd.asleep, hd.speed, hd.pace, hd.counter⟩

end Debugger

/--
A debugger is attached to a runtime, and anything happens to both in any order.  Then a step in
progress has a mode, and a running or idle debugger has none; an error is kept only at a pause; an
idle debugger has no marks; and the speed is at most the highest, with the counter of lines at zero
where lines are not counted, and below the chunk where they are.
-/
theorem control_state [Debuggee ρ] (runtime : ρ) (ops : List (Operation ρ)) :
    let d := (attach runtime).perform ops
    (d.state = .stepping → ∃ mode, d.stepMode = some mode) ∧
    (d.state = .running ∨ d.state = .idle → d.stepMode = none) ∧
    (∀ e, d.lastError = some e → d.state = .paused) ∧
    (d.state = .idle → d.skipBreakpoint = none ∧ d.skipErrorLine = none ∧
      d.skipStepCheck = false ∧ d.throttledLine = none) ∧
    d.speed ≤ 100 ∧
    (d.speed = 0 ∨ d.speed = 100 → d.lineCounter = 0) ∧
    (1 ≤ d.speed → d.speed ≤ 99 → ∃ chunk, d.pace.chunk = some chunk ∧ d.lineCounter < chunk) := by
  intro d
  have hd : d.Controlled := perform_induction controlled_apply (controlled_attach runtime) ops
  obtain ⟨hrests, hcounts⟩ := hd.counter_of_speed
  refine ⟨fun h => Option.ne_none_iff_exists'.1 (hd.stepping h), hd.unstepped, ?_, hd.asleep,
    hd.speed, hrests, hcounts⟩
  intro e he
  exact hd.error (he ▸ Option.some_ne_none e)

end LineBasic
