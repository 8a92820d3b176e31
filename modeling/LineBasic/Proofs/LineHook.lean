import LineBasic.Debugger
import LineBasic.Proofs.StoreLaws

/-!
# What the debugger makes of a line

Before a line runs, `Debugger.onLine` weighs marks, breakpoints, steps and the speed against each
other.  Its outcome is one of eight cases, and `Looks` lists them with everything that changes in
each.  Proofs about runs split on these cases and never open `onLine` itself.

Announcements go to the event bus and to nothing else, so the cases leave the bus open and fix every
other field.  Where the announcements matter, `onLine_of_unbroken` and its companions say what is run
on a line.

## Main definitions

* `isMarked`, `hits`, `stepIsOver`: the three questions that decide about a line.
* `tested`: the runtime behind the test of a condition.
* `Looks`: the cases of `onLine`.
* `Receives`: the cases of `handleError`.

## Main results

* `onLine_of_unbroken`, `onLine_of_hit` and others: the line hook as equations, events included.
* `looks_onLine`, `receives_handleError`: the cases are complete.
-/

namespace LineBasic

namespace Debugger

variable {ρ : Type}

/-! ## Questions about a line -/

/-- Whether the breakpoint of a line is to be passed over. -/
def isMarked (d : Debugger ρ) (line : LineId) : Bool :=
  d.skipBreakpoint.isSome && d.skipBreakpoint = line.number?

/-- The mark once a line has been checked: a numbered line spends it. -/
def markBehind (d : Debugger ρ) (line : LineId) : Option Nat :=
  if line.number?.isSome then none else d.skipBreakpoint

/-- The breakpoint on a line. -/
def breakpointOn (d : Debugger ρ) (line : LineId) : Option Breakpoint :=
  line.number?.bind d.breakpoints.find?

/-- Whether a breakpoint that is not passed over pauses the program on a line. -/
def hits (d : Debugger ρ) (line : LineId) : Bool :=
  match d.breakpointOn line with
  | some bp => bp.enabled && (d.testCondition bp.condition).1
  | none => false

/-- The runtime once the condition on a line, if there is one to test, has been tested. -/
def tested (d : Debugger ρ) (line : LineId) : ρ :=
  match d.breakpointOn line with
  | some bp => if bp.enabled then (d.testCondition bp.condition).2.runtime else d.runtime
  | none => d.runtime

/-- The debugger once it has taken note of a line, before it checks it. -/
def noted (d : Debugger ρ) (line : LineId) : Debugger ρ :=
  { d with
    currentLine := line, nextDelay := 0, throttledLine := none,
    skipErrorLine := if d.skipErrorLine = some line then d.skipErrorLine else none }

/-! ## The check of breakpoints -/

/-- The mark of a numbered line. -/
theorem isMarked_number {d : Debugger ρ} {n : Nat} :
    d.isMarked (.number n) = true ↔ d.skipBreakpoint = some n := by
  unfold isMarked
  show (d.skipBreakpoint.isSome && decide (d.skipBreakpoint = some n)) = true ↔ _
  rw [Bool.and_eq_true, decide_eq_true_eq]
  constructor
  · exact fun h => h.2
  · intro h
    rw [h]
    exact ⟨rfl, rfl⟩

/-- What a test makes of a condition: its verdict, and the runtime behind it. -/
def verdict (test : Option (ConditionTest ρ)) (condition : Option String) (runtime : ρ) : Bool × ρ :=
  match condition, test with
  | some text, some test => ((test text runtime).1.toOption.getD false, (test text runtime).2)
  | _, _ => (true, runtime)

/-- A test looks at the runtime alone, and changes nothing else. -/
@[simp] theorem testCondition_eq (d : Debugger ρ) (condition : Option String) :
    d.testCondition condition =
      ((verdict d.conditionTest condition d.runtime).1,
        { d with runtime := (verdict d.conditionTest condition d.runtime).2 }) := by
  cases condition with
  | none => rfl
  | some text =>
      obtain ⟨test, htest⟩ : ∃ test, d.conditionTest = test := ⟨_, rfl⟩
      unfold testCondition
      cases test with
      | none =>
          have hverdict : verdict d.conditionTest (some text) d.runtime = (true, d.runtime) := by
            rw [htest]
            rfl
          rw [hverdict]
          show _ = (true, d)
          rw [htest]
      | some test =>
          have hverdict : verdict d.conditionTest (some text) d.runtime =
              ((test text d.runtime).1.toOption.getD false, (test text d.runtime).2) := by
            rw [htest]
            rfl
          rw [hverdict, htest]

theorem hits_eq (d : Debugger ρ) (line : LineId) :
    d.hits line =
      match d.breakpointOn line with
      | some bp => bp.enabled && (verdict d.conditionTest bp.condition d.runtime).1
      | none => false := by
  unfold hits
  simp only [testCondition_eq]

theorem tested_eq (d : Debugger ρ) (line : LineId) :
    d.tested line =
      match d.breakpointOn line with
      | some bp =>
          if bp.enabled then (verdict d.conditionTest bp.condition d.runtime).2 else d.runtime
      | none => d.runtime := by
  unfold tested
  simp only [testCondition_eq]

@[simp] theorem hits_noted (d : Debugger ρ) (line : LineId) : (d.noted line).hits line = d.hits line := by
  rw [hits_eq, hits_eq]
  rfl

@[simp] theorem tested_noted (d : Debugger ρ) (line : LineId) :
    (d.noted line).tested line = d.tested line := by
  rw [tested_eq, tested_eq]
  rfl

theorem checkBreakpoint_of_marked {d : Debugger ρ} (h : d.isMarked d.currentLine = true) :
    d.checkBreakpoint = (none, { d with skipBreakpoint := d.markBehind d.currentLine }) := by
  unfold isMarked at h
  unfold checkBreakpoint markBehind
  cases hline : d.currentLine.number? with
  | none => cases hskip : d.skipBreakpoint <;> simp [hline, hskip] at h
  | some n =>
      have hskip : d.skipBreakpoint = some n := by simp_all
      simp [hskip]

theorem checkBreakpoint_of_miss {d : Debugger ρ} (hmark : d.isMarked d.currentLine = false)
    (hhit : d.hits d.currentLine = false) :
    d.checkBreakpoint =
      (none, { d with
        skipBreakpoint := d.markBehind d.currentLine, runtime := d.tested d.currentLine }) := by
  rw [hits_eq] at hhit
  rw [tested_eq]
  unfold isMarked at hmark
  unfold breakpointOn at hhit ⊢
  unfold checkBreakpoint markBehind
  cases hline : d.currentLine.number? with
  | none => simp
  | some n =>
      have hskip : d.skipBreakpoint ≠ some n := by
        intro h
        simp [hline, h] at hmark
      simp only [hline, Option.bind_some] at hhit ⊢
      rw [if_neg hskip]
      cases hbp : d.breakpoints.find? n with
      | none => rfl
      | some bp =>
          simp only [hbp, testCondition_eq] at hhit ⊢
          cases hen : bp.enabled with
          | false => simp
          | true =>
              rw [hen, Bool.true_and] at hhit
              simp [hhit]

theorem checkBreakpoint_of_hit {d : Debugger ρ} (hmark : d.isMarked d.currentLine = false)
    (hhit : d.hits d.currentLine = true) :
    ∃ bp, d.breakpointOn d.currentLine = some bp ∧
      d.checkBreakpoint =
        (some { bp with hits := bp.hits + 1 }, { d with
          skipBreakpoint := d.markBehind d.currentLine, runtime := d.tested d.currentLine,
          breakpoints := d.breakpoints.put { bp with hits := bp.hits + 1 } }) := by
  rw [hits_eq] at hhit
  rw [tested_eq]
  unfold isMarked at hmark
  unfold checkBreakpoint markBehind
  cases hbp : d.breakpointOn d.currentLine with
  | none => simp [hbp] at hhit
  | some bp =>
      refine ⟨bp, rfl, ?_⟩
      simp only [hbp, Bool.and_eq_true] at hhit
      obtain ⟨hen, hholds⟩ := hhit
      cases hline : d.currentLine.number? with
      | none => simp [breakpointOn, hline] at hbp
      | some n =>
          have hskip : d.skipBreakpoint ≠ some n := by
            intro h
            simp [hline, h] at hmark
          have hfind : d.breakpoints.find? n = some bp := by simpa [breakpointOn, hline] using hbp
          simp only [if_neg hskip, hfind, testCondition_eq, if_pos hen, if_pos hholds]
          simp [countHit, BreakpointStore.hit, hfind]

/-- A breakpoint on a line is one of the store. -/
theorem breakpointOn_all {d : Debugger ρ} {P : Breakpoint → Prop} (h : d.breakpoints.All P)
    {line : LineId} {bp : Breakpoint} (found : d.breakpointOn line = some bp) : P bp := by
  unfold breakpointOn at found
  cases hline : line.number? with
  | none =>
      rw [hline] at found
      cases found
  | some n =>
      rw [hline] at found
      exact h n bp found

/-- Where no condition is tested, nothing happens to the program. -/
theorem tested_unconditional {d : Debugger ρ}
    (h : d.breakpoints.All fun bp => bp.enabled = true → bp.condition = none) (line : LineId) :
    d.tested line = d.runtime := by
  unfold tested
  split
  · next bp hbp =>
      split
      · next hen =>
          rw [breakpointOn_all h hbp hen]
          rfl
      · rfl
  · rfl

/-- The condition of a breakpoint that is not enabled is not tested. -/
theorem tested_disabled {d : Debugger ρ} (h : d.breakpoints.All fun bp => bp.enabled = false)
    (line : LineId) : d.tested line = d.runtime := by
  refine tested_unconditional (fun n bp found henabled => ?_) line
  cases henabled.symm.trans (h n bp found)

/-- A breakpoint that is not enabled does not hit. -/
theorem hits_disabled {d : Debugger ρ} (h : d.breakpoints.All fun bp => bp.enabled = false)
    (line : LineId) : d.hits line = false := by
  unfold hits
  split
  · next bp hbp => rw [breakpointOn_all h hbp, Bool.false_and]
  · rfl

variable [Debuggee ρ]

/-! ## Faults -/

/-- The debugger once it has taken note of a fault, before it pauses the program. -/
def faulted (d : Debugger ρ) (f : Fault) : Debugger ρ :=
  { d with
    lastError := some (ErrorInfo.ofFault f (f.line.getD d.currentLine)),
    currentLine := f.line.getD d.currentLine, stepMode := none }

/-- What a debugger makes of a fault: it leaves the fault to the program, or takes it and pauses. -/
inductive Receives (d : Debugger ρ) (f : Fault) : Bool × Debugger ρ → Prop where
  | ignored (off : d.breakOnError = false) : Receives d f (false, d)
  /-- The user has gone on from a fault on this line. -/
  | passed (on : d.breakOnError = true) (mark : d.skipErrorLine = some (f.line.getD d.currentLine)) :
      Receives d f (false, { d with skipErrorLine := none })
  | taken (on : d.breakOnError = true)
      (unmarked : d.skipErrorLine ≠ some (f.line.getD d.currentLine)) :
      Receives d f (true, (d.faulted f).pauseWith .error none)

@[simp] theorem handleError_of_off {d : Debugger ρ} {f : Fault} (off : d.breakOnError = false) :
    d.handleError f = (false, d) := by
  unfold handleError
  rw [off]
  rfl

theorem handleError_of_mark {d : Debugger ρ} {f : Fault} (on : d.breakOnError = true)
    (mark : d.skipErrorLine = some (f.line.getD d.currentLine)) :
    d.handleError f = (false, { d with skipErrorLine := none }) := by
  unfold handleError
  exact (if_pos on).trans (if_pos mark)

theorem handleError_of_unmarked {d : Debugger ρ} {f : Fault} (on : d.breakOnError = true)
    (unmarked : d.skipErrorLine ≠ some (f.line.getD d.currentLine)) :
    d.handleError f = (true, (d.faulted f).pauseWith .error none) := by
  unfold handleError
  exact (if_pos on).trans (if_neg unmarked)

theorem receives_handleError (d : Debugger ρ) (f : Fault) : d.Receives f (d.handleError f) := by
  cases on : d.breakOnError with
  | false =>
      rw [handleError_of_off on]
      exact .ignored on
  | true =>
      rcases Decidable.em (d.skipErrorLine = some (f.line.getD d.currentLine)) with mark | unmarked
      · rw [handleError_of_mark on mark]
        exact .passed on mark
      · rw [handleError_of_unmarked on unmarked]
        exact .taken on unmarked

/-! ## The cases of the line hook -/

/-- Whether a step that has left its first line is over for a runtime. -/
def stepIsOver (d : Debugger ρ) (runtime : ρ) : Bool :=
  match d.stepMode with
  | some mode => !d.skipStepCheck && mode.isOver (Debuggee.depth runtime) d.stepDepth
  | none => false

@[simp] theorem checkStep_eq (d : Debugger ρ) :
    d.checkStep =
      (d.stepIsOver d.runtime,
        { d with skipStepCheck := d.skipStepCheck && d.stepMode.isNone }) := by
  have hsame : ∀ b, d.skipStepCheck = b → d = { d with skipStepCheck := b } := by
    rintro b rfl
    rfl
  unfold checkStep
  split
  · next hmode =>
      have hover : d.stepIsOver d.runtime = false := by
        unfold stepIsOver
        rw [hmode]
      rw [hover]
      refine congrArg (Prod.mk false) (hsame _ ?_)
      rw [hmode, Option.isNone_none, Bool.and_true]
  · next mode hmode =>
      have hover : d.stepIsOver d.runtime =
          (!d.skipStepCheck && mode.isOver (Debuggee.depth d.runtime) d.stepDepth) := by
        unfold stepIsOver
        rw [hmode]
      have hspent : (d.skipStepCheck && d.stepMode.isNone) = false := by
        rw [hmode, Option.isNone_some, Bool.and_false]
      rw [hover, hspent]
      split
      · next hskip => rw [hskip, Bool.not_true, Bool.false_and]
      · next hskip =>
          rw [Bool.not_eq_true] at hskip
          rw [hskip, Bool.not_false, Bool.true_and]
          exact congrArg (Prod.mk _) (hsame _ hskip)

/-- A step that is over has left its first line. -/
theorem skipStepCheck_of_stepIsOver {d : Debugger ρ} {runtime : ρ}
    (h : d.stepIsOver runtime = true) : d.skipStepCheck = false := by
  unfold stepIsOver at h
  split at h
  · rw [Bool.and_eq_true] at h
    exact Bool.not_eq_true' _ ▸ h.1
  · exact absurd h Bool.false_ne_true

/-- No breakpoint pauses the program on a line, and the check leaves the runtime as `runtime`. -/
inductive Unbroken (d : Debugger ρ) (line : LineId) : ρ → Prop where
  /-- The breakpoint of the line is passed over, and no condition is tested. -/
  | marked (mark : d.isMarked line = true) : Unbroken d line d.runtime
  /-- There is no breakpoint that pauses the program here. -/
  | missed (mark : d.isMarked line = false) (miss : d.hits line = false) :
      Unbroken d line (d.tested line)

/-- The debugger behind the check of a line whose breakpoint does not pause the program. -/
def weighed (d : Debugger ρ) (line : LineId) (runtime : ρ) : Debugger ρ :=
  { d.noted line with runtime := runtime, skipBreakpoint := d.markBehind line }

/-- The debugger behind the checks of a line on which neither a breakpoint nor a step pauses. -/
def checked (d : Debugger ρ) (line : LineId) (runtime : ρ) : Debugger ρ :=
  { d.noted line with
    runtime := runtime, skipBreakpoint := d.markBehind line,
    skipStepCheck := d.skipStepCheck && d.stepMode.isNone }

/-- The debugger once it has paused the program before a line. -/
def paused (d : Debugger ρ) (line : LineId) (runtime : ρ) (bus : EventBus Event) : Debugger ρ :=
  { d.noted line with
    runtime := Debuggee.requestStop runtime .pause, skipBreakpoint := d.markBehind line,
    stepMode := none, lineCounter := 0, state := .paused, events := bus }

/-- What `onLine` makes of a debugger, case by case. -/
inductive Looks (d : Debugger ρ) (line : LineId) : Debugger ρ → Prop where
  /-- Without a run to follow, the line is taken note of. -/
  | idle (active : d.state = .idle) : Looks d line { d with currentLine := line, nextDelay := 0 }
  /-- The program comes back to the line before which it waited for its speed. -/
  | reentry (active : d.state ≠ .idle) (waited : d.throttledLine = some line) :
      Looks d line (d.noted line)
  /-- A breakpoint pauses the program, and counts that. -/
  | broken (active : d.state ≠ .idle) (arrived : d.throttledLine ≠ some line)
      (mark : d.isMarked line = false) (hit : d.hits line = true) (bp : Breakpoint)
      (found : d.breakpointOn line = some bp) (bus : EventBus Event) :
      Looks d line { d.paused line (d.tested line) bus with
        breakpoints := d.breakpoints.put { bp with hits := bp.hits + 1 } }
  /-- A step is over. -/
  | stepped (active : d.state ≠ .idle) (arrived : d.throttledLine ≠ some line) (runtime : ρ)
      (unbroken : d.Unbroken line runtime) (isOver : d.stepIsOver runtime = true)
      (bus : EventBus Event) : Looks d line (d.paused line runtime bus)
  /-- The program goes on from the line on which it paused. -/
  | resumed (active : d.state ≠ .idle) (arrived : d.throttledLine ≠ some line)
      (mark : d.isMarked line = true) (isOver : d.stepIsOver d.runtime = false) :
      Looks d line (d.checked line d.runtime)
  /-- At speed zero the program pauses before every line. -/
  | halted (active : d.state ≠ .idle) (arrived : d.throttledLine ≠ some line)
      (mark : d.isMarked line = false) (miss : d.hits line = false)
      (isOver : d.stepIsOver (d.tested line) = false) (speed : d.speed = 0) (bus : EventBus Event) :
      Looks d line { d.checked line (Debuggee.requestStop (d.tested line) .pause) with
        state := .paused, events := bus }
  /-- The program waits for its speed. -/
  | waits (active : d.state ≠ .idle) (arrived : d.throttledLine ≠ some line)
      (mark : d.isMarked line = false) (miss : d.hits line = false)
      (isOver : d.stepIsOver (d.tested line) = false) (speed : d.speed ≠ 0)
      (chunk : Nat) (pace : d.pace.chunk = some chunk) (full : chunk ≤ d.lineCounter + 1)
      (bus : EventBus Event) :
      Looks d line { d.checked line (Debuggee.requestStop (d.tested line) .throttle) with
        lineCounter := 0, nextDelay := d.pace.delay, throttledLine := some line, events := bus }
  /-- Nothing holds the program up. -/
  | runs (active : d.state ≠ .idle) (arrived : d.throttledLine ≠ some line)
      (mark : d.isMarked line = false) (miss : d.hits line = false)
      (isOver : d.stepIsOver (d.tested line) = false) (counter : Nat)
      (unheld : d.speed ≠ 0 ∨ d.pace.chunk = none)
      (counted : ∀ chunk, d.pace.chunk = some chunk →
        counter = d.lineCounter + 1 ∧ counter < chunk)
      (uncounted : d.pace.chunk = none → counter = d.lineCounter) :
      Looks d line { d.checked line (d.tested line) with lineCounter := counter }

/-! ## The line hook as equations -/

/-- What follows the check of breakpoints where none pauses: the step, and then the speed, which
leaves the line alone that the program goes on from. -/
def weigh (d : Debugger ρ) (resumed : Bool) : Debugger ρ :=
  match d.checkStep with
  | (true, d) => d.stopBefore .step none
  | (false, d) => if resumed then d else d.throttle

@[simp] theorem onLine_of_idle {d : Debugger ρ} (asleep : d.state = .idle) (line : LineId) :
    d.onLine line = { d with currentLine := line, nextDelay := 0 } := by
  unfold onLine
  dsimp only
  rw [if_pos asleep]

/-- An active debugger takes note of a line, and lets it run if the program has waited before it. -/
theorem onLine_of_active {d : Debugger ρ} (active : d.state ≠ .idle) (line : LineId) :
    d.onLine line = if d.throttledLine = some line then d.noted line else (d.noted line).arrive := by
  have hdrop : { dropErrorMark { d with currentLine := line, nextDelay := 0 } with
      throttledLine := none } = d.noted line := by
    unfold dropErrorMark noted
    dsimp only
    split
    · next hsame => rfl
    · next hother => rfl
  have hthrottled : (dropErrorMark { d with currentLine := line, nextDelay := 0 }).throttledLine
      = d.throttledLine := by
    unfold dropErrorMark
    split <;> rfl
  unfold onLine
  dsimp only
  rw [if_neg active, hdrop, hthrottled]

theorem onLine_of_waited {d : Debugger ρ} {line : LineId} (active : d.state ≠ .idle)
    (waited : d.throttledLine = some line) : d.onLine line = d.noted line := by
  rw [onLine_of_active active, if_pos waited]

/-- A line on which no breakpoint pauses is left to the step and the speed. -/
theorem onLine_of_unbroken {d : Debugger ρ} {line : LineId} {runtime : ρ}
    (active : d.state ≠ .idle) (arrived : d.throttledLine ≠ some line)
    (unbroken : d.Unbroken line runtime) :
    d.onLine line = (d.weighed line runtime).weigh (d.isMarked line) := by
  have hresumed : ((d.noted line).skipBreakpoint.isSome &&
      (d.noted line).skipBreakpoint = (d.noted line).currentLine.number?) =
        d.isMarked line := rfl
  have hcheck : (d.noted line).checkBreakpoint = (none, d.weighed line runtime) := by
    cases unbroken with
    | marked mark => exact checkBreakpoint_of_marked mark
    | missed mark miss =>
        rw [← tested_noted]
        exact checkBreakpoint_of_miss mark ((hits_noted d line).trans miss)
  rw [onLine_of_active active, if_neg arrived]
  unfold arrive
  rw [hresumed, hcheck]
  rfl

/-- A breakpoint that hits pauses the program, with the hit counted. -/
theorem onLine_of_hit {d : Debugger ρ} {line : LineId} (active : d.state ≠ .idle)
    (arrived : d.throttledLine ≠ some line) (mark : d.isMarked line = false)
    (hit : d.hits line = true) :
    ∃ bp, d.breakpointOn line = some bp ∧
      d.onLine line = stopBefore
        { d.weighed line (d.tested line) with
          breakpoints := d.breakpoints.put { bp with hits := bp.hits + 1 } }
        .breakpoint (some { bp with hits := bp.hits + 1 }) := by
  obtain ⟨bp, hfound, hcheck⟩ := checkBreakpoint_of_hit (d := d.noted line) mark
    ((hits_noted d line).trans hit)
  have htested : (d.noted line).tested (d.noted line).currentLine = d.tested line :=
    tested_noted d line
  rw [htested] at hcheck
  refine ⟨bp, hfound, ?_⟩
  rw [onLine_of_active active, if_neg arrived]
  unfold arrive
  rw [hcheck]
  rfl

theorem weigh_eq (d : Debugger ρ) (resumed : Bool) :
    d.weigh resumed =
      if d.stepIsOver d.runtime then
        stopBefore { d with skipStepCheck := d.skipStepCheck && d.stepMode.isNone } .step none
      else if resumed then { d with skipStepCheck := d.skipStepCheck && d.stepMode.isNone }
      else throttle { d with skipStepCheck := d.skipStepCheck && d.stepMode.isNone } := by
  unfold weigh
  rw [checkStep_eq]
  cases d.stepIsOver d.runtime <;> rfl

theorem weigh_weighed (d : Debugger ρ) (line : LineId) (runtime : ρ) (resumed : Bool) :
    (d.weighed line runtime).weigh resumed =
      if d.stepIsOver runtime then (d.checked line runtime).stopBefore .step none
      else if resumed then d.checked line runtime
      else (d.checked line runtime).throttle :=
  weigh_eq _ _

/-! ## The speed as equations -/

@[simp] theorem throttle_of_free {d : Debugger ρ} (free : d.pace.chunk = none) : d.throttle = d := by
  unfold throttle
  rw [free]

theorem throttle_of_halt {d : Debugger ρ} {chunk : Nat} (pace : d.pace.chunk = some chunk)
    (halt : d.speed = 0) : d.throttle = d.pauseWith .step none := by
  unfold throttle
  rw [pace]
  exact if_pos halt

/-- At the end of a chunk the program waits, and that is announced. -/
theorem throttle_of_full {d : Debugger ρ} {chunk : Nat} (pace : d.pace.chunk = some chunk)
    (moves : d.speed ≠ 0) (full : chunk ≤ d.lineCounter + 1) :
    d.throttle = emit
      { d with
        runtime := Debuggee.requestStop d.runtime .throttle, lineCounter := 0,
        nextDelay := d.pace.delay, throttledLine := some d.currentLine } .step none := by
  unfold throttle
  rw [pace]
  exact (if_neg moves).trans (if_pos full)

theorem throttle_of_counted {d : Debugger ρ} {chunk : Nat} (pace : d.pace.chunk = some chunk)
    (moves : d.speed ≠ 0) (within : ¬ chunk ≤ d.lineCounter + 1) :
    d.throttle = { d with lineCounter := d.lineCounter + 1 } := by
  unfold throttle
  rw [pace]
  exact (if_neg moves).trans (if_neg within)

/-! ## The list of cases is complete -/

/-- A line on which no breakpoint and no step pauses, and which is not the one the program goes on
from, is left to the speed. -/
theorem looks_throttle {d : Debugger ρ} {line : LineId} (active : d.state ≠ .idle)
    (arrived : d.throttledLine ≠ some line) (mark : d.isMarked line = false)
    (miss : d.hits line = false) (isOver : d.stepIsOver (d.tested line) = false) :
    Looks d line (d.checked line (d.tested line)).throttle := by
  cases hchunk : d.pace.chunk with
  | none =>
      rw [throttle_of_free (by exact hchunk)]
      refine .runs active arrived mark miss isOver d.lineCounter (.inr hchunk) ?_ fun _ => rfl
      intro chunk hsome
      cases hchunk.symm.trans hsome
  | some chunk =>
      rcases Decidable.em (d.speed = 0) with halt | moves
      · rw [throttle_of_halt (by exact hchunk) (by exact halt), pauseWith_eq]
        exact .halted active arrived mark miss isOver halt _
      rcases Decidable.em (chunk ≤ d.lineCounter + 1) with full | within
      · rw [throttle_of_full (by exact hchunk) (by exact moves) (by exact full), emit_eq]
        exact .waits active arrived mark miss isOver moves chunk hchunk full _
      · rw [throttle_of_counted (by exact hchunk) (by exact moves) (by exact within)]
        refine .runs active arrived mark miss isOver (d.lineCounter + 1) (.inl moves) ?_ ?_
        · intro chunk' hsome
          obtain rfl : chunk = chunk' := Option.some.inj (hchunk.symm.trans hsome)
          exact ⟨rfl, Nat.lt_of_not_le within⟩
        · intro hnone
          cases hchunk.symm.trans hnone

/-- A line on which no breakpoint pauses is left to the step, and then to the speed. -/
theorem looks_weighed {d : Debugger ρ} {line : LineId} {runtime : ρ} (active : d.state ≠ .idle)
    (arrived : d.throttledLine ≠ some line) (unbroken : d.Unbroken line runtime) :
    Looks d line ((d.weighed line runtime).weigh (d.isMarked line)) := by
  rw [weigh_weighed]
  cases hover : d.stepIsOver runtime with
  | true =>
      have hspent : (d.checked line runtime).skipStepCheck = d.skipStepCheck := by
        show (d.skipStepCheck && d.stepMode.isNone) = d.skipStepCheck
        rw [skipStepCheck_of_stepIsOver hover, Bool.false_and]
      rw [if_pos rfl, stopBefore_eq, hspent]
      exact .stepped active arrived runtime unbroken hover _
  | false =>
      rw [if_neg Bool.false_ne_true]
      cases unbroken with
      | marked mark =>
          rw [if_pos mark]
          exact .resumed active arrived mark hover
      | missed mark miss =>
          rw [if_neg (Bool.not_eq_true _ ▸ mark)]
          exact looks_throttle active arrived mark miss hover

/-- The cases of the line hook are complete. -/
theorem looks_onLine (d : Debugger ρ) (line : LineId) : Looks d line (d.onLine line) := by
  rcases Decidable.em (d.state = .idle) with asleep | active
  · rw [onLine_of_idle asleep]
    exact .idle asleep
  rcases Decidable.em (d.throttledLine = some line) with waited | arrived
  · rw [onLine_of_waited active waited]
    exact .reentry active waited
  cases mark : d.isMarked line with
  | true =>
      rw [onLine_of_unbroken active arrived (.marked mark)]
      exact looks_weighed active arrived (.marked mark)
  | false =>
      cases hit : d.hits line with
      | true =>
          obtain ⟨bp, hfound, hline⟩ := onLine_of_hit active arrived mark hit
          rw [hline, stopBefore_eq]
          exact .broken active arrived mark hit bp hfound _
      | false =>
          rw [onLine_of_unbroken active arrived (.missed mark hit)]
          exact looks_weighed active arrived (.missed mark hit)

/-- A marked line on which no step is over is checked and let run. -/
theorem looks_marked {d d' : Debugger ρ} {n : Nat} (active : d.state ≠ .idle)
    (arrived : d.throttledLine ≠ some (.number n)) (marked : d.skipBreakpoint = some n)
    (unfinished : d.stepIsOver d.runtime = false) (h : Looks d (.number n) d') :
    d' = d.checked (.number n) d.runtime := by
  have hmark := isMarked_number.2 marked
  cases h with
  | idle asleep => exact absurd asleep active
  | reentry _ waited => exact absurd waited arrived
  | resumed => rfl
  | stepped _ _ runtime unbroken isOver =>
      cases unbroken with
      | marked => cases isOver.symm.trans unfinished
      | missed mark => cases mark.symm.trans hmark
  | broken _ _ mark | halted _ _ mark | waits _ _ mark | runs _ _ mark =>
      cases mark.symm.trans hmark

/-- A line that the program has waited for is taken note of and let run. -/
theorem looks_waited {d d' : Debugger ρ} {line : LineId} (active : d.state ≠ .idle)
    (waited : d.throttledLine = some line) (h : Looks d line d') : d' = d.noted line := by
  cases h with
  | idle asleep => exact absurd asleep active
  | reentry => rfl
  | broken _ arrived | stepped _ arrived | resumed _ arrived | halted _ arrived
  | waits _ arrived | runs _ arrived => exact absurd waited arrived

end Debugger

end LineBasic
