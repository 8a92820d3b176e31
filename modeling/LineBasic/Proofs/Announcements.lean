import LineBasic.Proofs.Operations

/-!
# What the debugger announces

The debugger announces a change of its state in `setState`, and everything else in `emit`.  What it
announces depends neither on who listens nor on the breakpoints that are set, and it looks at the
listeners for nothing else.  So a function of the debugger can be run for any listeners and any
breakpoints, and the outcome is the same but for those two fields.  Only the check of a breakpoint
that hits reads the breakpoints, and it is kept apart here: what follows the check is `weigh`.

The events of one call have a shape.  A change of the state comes first, with the new state, and
at most one other event follows.  If the call pauses the program there is such an event, and its
kind says why.

## Main definitions

* `Event.newStates`: the states that a list of events reports.
* `Reports`: the shape of the events of one call.
* `Debugger.Tells`, `Debugger.Announces`: a function announces events, of this shape, whoever listens
  and whatever breakpoints there are.
* `Debugger.Told`: the same for the breakpoints that there are.

## Main results

* `announces_pauseWith`, `announces_resume`, `announces_beginStep`, `announces_weigh` and others:
  each function of the debugger announces events of this shape.
-/

namespace LineBasic

/-! ## The shape of an announcement -/

/-- The state that an event reports. -/
def Event.newState? (e : Event) : Option DebugState :=
  if e.kind = .stateChange then some e.snapshot.state else none

/-- The states that a list of events reports. -/
def Event.newStates (es : List Event) : List DebugState := es.filterMap newState?

/-- Why a program is paused. -/
def EventKind.pausing : List EventKind := [.paused, .breakpoint, .step, .error]

/-- Events report that a debugger goes from a state `s` to a state `s'`. -/
structure Reports (s s' : DebugState) (es : List Event) : Prop where
  states : Event.newStates es = if s = s' then [] else [s']
  pause : s ≠ .paused → s' = .paused →
    ∃ kind ∈ EventKind.pausing, es.map Event.kind = [.stateChange, kind]

@[simp] theorem newState?_of_kind {e : Event} (other : e.kind ≠ .stateChange) : e.newState? = none :=
  if_neg other

theorem reports_nothing (s : DebugState) : Reports s s [] where
  states := (if_pos rfl).symm
  pause := fun moves stays => absurd stays moves

/-- An event that does not pause the program. -/
theorem reports_aside (s : DebugState) {e : Event} (other : e.kind ≠ .stateChange) :
    Reports s s [e] where
  states := by
    rw [if_pos rfl]
    exact List.filterMap_cons_none (newState?_of_kind other)
  pause := fun moves stays => absurd stays moves

namespace Debugger

variable {ρ : Type}

/-! ## What a function announces -/

/-- A function announces `es` to whoever listens, whatever breakpoints there are, and looks at
neither for anything else. -/
def Tells (f : Debugger ρ → Debugger ρ) (d : Debugger ρ) (es : List Event) : Prop :=
  ∀ bus store, f { d with events := bus, breakpoints := store } =
    { f d with events := bus.tell es, breakpoints := store }

/-- A function announces what it does to the state. -/
def Announces (f : Debugger ρ → Debugger ρ) (d : Debugger ρ) : Prop :=
  ∃ es, Tells f d es ∧ Reports d.state (f d).state es

theorem announces_id (d : Debugger ρ) : Announces id d :=
  ⟨[], fun _ _ => rfl, reports_nothing d.state⟩

/-- A function that acts as `g` does on a debugger in the same state announces what `g` does. -/
theorem Announces.congr {f g : Debugger ρ → Debugger ρ} {d d' : Debugger ρ} (h : Announces g d')
    (hf : ∀ bus store, f { d with events := bus, breakpoints := store } =
      g { d' with events := bus, breakpoints := store })
    (hstate : d'.state = d.state) : Announces f d := by
  obtain ⟨es, htells, hreports⟩ := h
  have hsame : f d = { g d' with events := d.events.tell es, breakpoints := d.breakpoints } :=
    (hf d.events d.breakpoints).trans (htells _ _)
  refine ⟨es, fun bus store => ?_, ?_⟩
  · rw [hf, htells, hsame]
  · rw [hsame, ← hstate]
    exact hreports

theorem Announces.breakpoints {f : Debugger ρ → Debugger ρ} {d : Debugger ρ}
    (h : Announces f d) : (f d).breakpoints = d.breakpoints := by
  obtain ⟨es, htells, -⟩ := h
  have hself := congrArg Debugger.breakpoints (htells d.events d.breakpoints)
  exact hself

/-- A function announces what it does to the state, for the breakpoints that there are. -/
def Told (f : Debugger ρ → Debugger ρ) (d : Debugger ρ) : Prop :=
  ∃ es, (∀ bus, f { d with events := bus } = { f d with events := bus.tell es }) ∧
    Reports d.state (f d).state es

theorem Announces.told {f : Debugger ρ → Debugger ρ} {d : Debugger ρ} (h : Announces f d) :
    Told f d := by
  have hsame := h.breakpoints
  obtain ⟨es, htells, hreports⟩ := h
  refine ⟨es, fun bus => ?_, hreports⟩
  calc f { d with events := bus }
      = { f d with events := bus.tell es, breakpoints := d.breakpoints } :=
        htells bus d.breakpoints
    _ = { f d with events := bus.tell es } := by rw [← hsame]

theorem Told.congr {f g : Debugger ρ → Debugger ρ} {d d' : Debugger ρ} (h : Told g d')
    (hf : ∀ bus, f { d with events := bus } = g { d' with events := bus })
    (hstate : d'.state = d.state) : Told f d := by
  obtain ⟨es, htells, hreports⟩ := h
  have hsame : f d = { g d' with events := d.events.tell es } :=
    (hf d.events).trans (htells d.events)
  refine ⟨es, fun bus => ?_, ?_⟩
  · rw [hf, htells, hsame]
  · rw [hsame, ← hstate]
    exact hreports

variable [Debuggee ρ]

/-! ## States and events -/

@[simp] theorem newStates_change (d : Debugger ρ) (state : DebugState) :
    Event.newStates (d.change state) = if d.state = state then [] else [state] := by
  unfold change
  split <;> rfl

theorem reports_change (d : Debugger ρ) {state : DebugState} (unpaused : state ≠ .paused) :
    Reports d.state state (d.change state) where
  states := d.newStates_change state
  pause := fun _ paused => absurd paused unpaused

/-- A change of the state, and then another event. -/
theorem reports_change_append (d : Debugger ρ) {state : DebugState} {e : Event}
    (other : e.kind ≠ .stateChange) (reason : state = .paused → e.kind ∈ EventKind.pausing) :
    Reports d.state state (d.change state ++ [e]) where
  states := by
    have hnone : Event.newStates [e] = [] :=
      List.filterMap_cons_none (newState?_of_kind other)
    show (d.change state ++ [e]).filterMap Event.newState? = _
    rw [List.filterMap_append]
    show Event.newStates (d.change state) ++ Event.newStates [e] = _
    rw [hnone, List.append_nil, newStates_change]
  pause := by
    rintro moves rfl
    refine ⟨e.kind, reason rfl, ?_⟩
    unfold change
    rw [if_neg moves]
    rfl

theorem announces_emit (d : Debugger ρ) (kind : EventKind) (bp : Option Breakpoint)
    (other : kind ≠ .stateChange) : Announces (fun d => d.emit kind bp) d := by
  refine ⟨[⟨kind, d.snapshot, bp⟩], fun bus store => ?_, ?_⟩
  · dsimp only
    rw [emit_eq, emit_eq]
    rfl
  · dsimp only
    rw [emit_eq]
    exact reports_aside d.state other

theorem announces_setState (d : Debugger ρ) (state : DebugState) (unpaused : state ≠ .paused) :
    Announces (fun d => d.setState state) d := by
  refine ⟨d.change state, fun bus store => ?_, ?_⟩
  · dsimp only
    rw [setState_eq, setState_eq]
    rfl
  · dsimp only
    rw [setState_eq]
    exact d.reports_change unpaused

theorem announces_pauseWith (d : Debugger ρ) (kind : EventKind) (bp : Option Breakpoint)
    (reason : kind ∈ EventKind.pausing) : Announces (fun d => d.pauseWith kind bp) d := by
  have hother : kind ≠ .stateChange := by
    rintro rfl
    exact absurd reason (by decide)
  refine ⟨d.change .paused ++ [⟨kind, snapshot { d with
    state := .paused, runtime := Debuggee.requestStop d.runtime .pause }, bp⟩],
    fun bus store => ?_, ?_⟩
  · dsimp only
    rw [pauseWith_eq, pauseWith_eq]
    rfl
  · dsimp only
    rw [pauseWith_eq]
    exact d.reports_change_append hother fun _ => reason

/-! ## Commands -/

theorem announces_start (d : Debugger ρ) : Announces start d :=
  (announces_setState { d.clearMarks with lineCounter := 0 } .running nofun).congr
    (fun _ _ => rfl) rfl

theorem announces_reset (d : Debugger ρ) : Announces reset d :=
  (announces_setState { d.clearMarks with lineCounter := 0, nextDelay := 0 } .idle nofun).congr
    (fun _ _ => rfl) rfl

theorem announces_pause (d : Debugger ρ) : Announces pause d :=
  announces_pauseWith d .paused none (by decide)

theorem announces_resume (d : Debugger ρ) : Announces resume d := by
  refine ⟨change { d with lastError := none } .running ++ [⟨.resumed, snapshot { d with
    lastError := none, state := .running, runtime := Debuggee.clearStop d.runtime }, none⟩],
    fun bus store => ?_, ?_⟩
  · rw [resume_eq, resume_eq]
    rfl
  · rw [resume_eq]
    exact reports_change_append { d with lastError := none } nofun nofun

theorem announces_beginStep (d : Debugger ρ) (mode : StepMode) :
    Announces (fun d => d.beginStep mode) d := by
  rcases Decidable.em (d.state = .idle) with asleep | active
  · exact d.announces_id.congr (fun _ _ => beginStep_of_idle (by exact asleep) mode) rfl
  · refine ⟨change { d with lastError := none } .stepping, fun bus store => ?_, ?_⟩
    · dsimp only
      rw [beginStep_eq (by exact active), beginStep_eq active]
      rfl
    · dsimp only
      rw [beginStep_eq active]
      exact reports_change { d with lastError := none } nofun

/-! ## Faults and lines -/

theorem announces_handleError (d : Debugger ρ) (f : Fault) :
    Announces (fun d => (d.handleError f).2) d := by
  cases on : d.breakOnError with
  | false =>
      refine d.announces_id.congr (fun bus store => ?_) rfl
      exact congrArg Prod.snd
        (handleError_of_off (d := { d with events := bus, breakpoints := store }) on)
  | true =>
      rcases Decidable.em (d.skipErrorLine = some (f.line.getD d.currentLine)) with mark | unmarked
      · refine (announces_id { d with skipErrorLine := none }).congr (fun bus store => ?_) rfl
        exact congrArg Prod.snd
          (handleError_of_mark (d := { d with events := bus, breakpoints := store }) on mark)
      · refine ((d.faulted f).announces_pauseWith .error none (by decide)).congr
          (fun bus store => ?_) rfl
        exact congrArg Prod.snd
          (handleError_of_unmarked (d := { d with events := bus, breakpoints := store }) on
            unmarked)

theorem announces_stopBefore (d : Debugger ρ) (kind : EventKind) (bp : Option Breakpoint)
    (reason : kind ∈ EventKind.pausing) : Announces (fun d => d.stopBefore kind bp) d :=
  (announces_pauseWith { d with stepMode := none, lineCounter := 0 } kind bp reason).congr
    (fun _ _ => rfl) rfl

theorem announces_throttle (d : Debugger ρ) : Announces throttle d := by
  cases pace : d.pace.chunk with
  | none => exact d.announces_id.congr (fun _ _ => throttle_of_free pace) rfl
  | some chunk =>
      rcases Decidable.em (d.speed = 0) with halt | moves
      · exact (announces_pauseWith d .step none (by decide)).congr
          (fun _ _ => throttle_of_halt pace halt) rfl
      rcases Decidable.em (chunk ≤ d.lineCounter + 1) with full | within
      · exact (announces_emit
          { d with
            runtime := Debuggee.requestStop d.runtime .throttle, lineCounter := 0,
            nextDelay := d.pace.delay, throttledLine := some d.currentLine }
          .step none nofun).congr
          (fun _ _ => throttle_of_full pace moves full) rfl
      · exact (announces_id { d with lineCounter := d.lineCounter + 1 }).congr
          (fun _ _ => throttle_of_counted pace moves within) rfl

theorem announces_atPause {α : Type} (d : Debugger ρ) (purpose : String)
    (snippet : Variables → Answer α) : Announces (fun d => (d.atPause purpose snippet).2) d :=
  (announces_id
    { d with
      runtime :=
        if d.hasEvaluator = true ∧ d.state = .paused then
          (settle d.runtime (snippet (Debuggee.vars d.runtime))).2
        else d.runtime }).congr (fun _ _ => atPause_eq _ purpose snippet) rfl

/-- What follows the check of breakpoints reads none. -/
theorem announces_weigh (d : Debugger ρ) (resumed : Bool) :
    Announces (fun d => d.weigh resumed) d := by
  cases isOver : d.stepIsOver d.runtime with
  | true =>
      exact (announces_stopBefore
        { d with skipStepCheck := d.skipStepCheck && d.stepMode.isNone } .step none
        (by decide)).congr
        (fun _ _ => (weigh_eq _ _).trans (if_pos isOver)) rfl
  | false =>
      have unfinished : ¬ d.stepIsOver d.runtime = true := Bool.not_eq_true _ ▸ isOver
      cases resumed with
      | true =>
          exact (announces_id
            { d with skipStepCheck := d.skipStepCheck && d.stepMode.isNone }).congr
            (fun _ _ => (weigh_eq _ _).trans (if_neg unfinished)) rfl
      | false =>
          exact (announces_throttle
            { d with skipStepCheck := d.skipStepCheck && d.stepMode.isNone }).congr
            (fun _ _ => (weigh_eq _ _).trans (if_neg unfinished)) rfl

end Debugger

end LineBasic
