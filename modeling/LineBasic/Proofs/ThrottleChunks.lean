import LineBasic.Proofs.Session

/-!
# Chunks of lines

Between full speed and a halt a program runs a chunk of lines and then waits.  The debugger counts
lines as the program arrives at them, and asks for a wait when the chunk is full.  Coming back from
a wait is no arrival: the line was counted before it.  A program that jumps to the line before which
it has waited does arrive there, though nothing but the wait tells the two apart.

So the waits of a run are those arrivals of the program on its own whose number is a multiple of the
chunk.  The module proves this by following a run tick by tick, with the counter beside the arrivals
of the program: each arrival adds one to both, until the counter is taken back by a chunk in a wait.

## Main definitions

* `Process.arrivals`: how often a program arrives at a line in a number of steps.
* `Host.WaitsIn`: the waits of a run that is continued over all of them, by their numbers.
* `Throttled`: a run that nothing but its speed holds up.
* `Due`: a wait is due at an arrival of the program on its own.
* `Counted`: the counter is below the chunk.

## Main results

* `waitsIn_iff_enters`, `waitsIn_of_wait`: the waits of a run behind a statement and behind a wait.
* `Throttled.realizes`: a run waits when it is due, and only then.
* `counted_session`: the counter is below the chunk at any moment of a session.
* `throttle_chunks`: the waits of a run from its start.
-/

namespace LineBasic

open Debugger Host

variable {program : Program} {g h h' v x : Host} {line : SourceLine} {o : RunOutcome}
  {last : Option RunOutcome} {i j k m n : Nat}

/-! ## Arrivals -/

namespace Process

variable {p q : Process}

/-- Whether a program stands before a line. -/
def isArrival (program : Program) (p : Process) : Bool :=
  p.pc.statement == 0 && (program.get? p.pc.line).isSome

/-- How often a program stands before a line, from where it is up to `n` steps later. -/
def arrivals (program : Program) : Nat → Process → Nat
  | 0, p => (p.isArrival program).toNat
  | n + 1, p =>
      match p.advance program with
      | (q, .goesOn) => (p.isArrival program).toNat + arrivals program n q
      | _ => (p.isArrival program).toNat

theorem isArrival_of_before (before : p.IsBefore program line) : p.isArrival program = true := by
  unfold isArrival
  rw [before.found, before.first]
  rfl

theorem isArrival_inside (inside : p.pc.statement ≠ 0) : p.isArrival program = false := by
  unfold isArrival
  rw [beq_false_of_ne inside]
  rfl

theorem arrivals_succ (step : p.advance program = (q, .goesOn)) (n : Nat) :
    p.arrivals program (n + 1) = (p.isArrival program).toNat + q.arrivals program n := by
  rw [arrivals, step]

end Process

/-! ## The waits of a run -/

namespace Host

/-- A run that is continued over all its waits comes to the wait of number `i` in the tick behind
`k` steps of the program. -/
inductive WaitsIn : Host → Nat → Nat → Host → RunOutcome → Prop where
  | first {h h' : Host} {k : Nat} {o : RunOutcome} (run : h.Runs k h' o)
      (waits : o.isWait = true) : WaitsIn h 1 k h' o
  | next {h x h' : Host} {i m n : Nat} {wait o : RunOutcome} (run : h.Runs m x wait)
      (waits : wait.isWait = true) (rest : x.WaitsIn i n h' o) : WaitsIn h (i + 1) (m + n) h' o

theorem waitsIn_of_tick_none (unfinished : h.finished = false) (tick : h.tick = (x, none)) :
    h.WaitsIn i k h' o ↔ ∃ m, k = m + 1 ∧ x.WaitsIn i m h' o := by
  constructor
  · intro hwaits
    cases hwaits with
    | first run waits =>
        obtain ⟨m, rfl, hm⟩ := (runs_of_tick_none unfinished tick).1 run
        exact ⟨m, rfl, .first hm waits⟩
    | next run waits rest =>
        obtain ⟨m, rfl, hm⟩ := (runs_of_tick_none unfinished tick).1 run
        exact ⟨_, Nat.succ_add _ _, .next hm waits rest⟩
  · rintro ⟨m, rfl, hwaits⟩
    cases hwaits with
    | first run waits => exact .first ((runs_of_tick_none unfinished tick).2 ⟨_, rfl, run⟩) waits
    | next run waits rest =>
        rw [Nat.add_right_comm]
        exact .next ((runs_of_tick_none unfinished tick).2 ⟨_, rfl, run⟩) waits rest

/-- The waits of a run that waits at once. -/
theorem waitsIn_of_wait (unfinished : h.finished = false) {wait : RunOutcome}
    (tick : h.tick = (x, some wait)) (waits : wait.isWait = true) :
    h.WaitsIn i k h' o ↔
      (i = 1 ∧ k = 0 ∧ h' = x ∧ o = wait) ∨ ∃ j, i = j + 1 ∧ x.WaitsIn j k h' o := by
  constructor
  · intro hwaits
    cases hwaits with
    | first run =>
        obtain ⟨rfl, rfl, rfl⟩ := (runs_of_tick_some unfinished tick).1 run
        exact .inl ⟨rfl, rfl, rfl, rfl⟩
    | next run _ rest =>
        obtain ⟨rfl, rfl, rfl⟩ := (runs_of_tick_some unfinished tick).1 run
        rw [Nat.zero_add]
        exact .inr ⟨_, rfl, rest⟩
  · rintro (⟨rfl, rfl, rfl, rfl⟩ | ⟨j, rfl, hwaits⟩)
    · exact .first ((runs_of_tick_some unfinished tick).2 ⟨rfl, rfl, rfl⟩) waits
    · rw [← Nat.zero_add k]
      exact .next ((runs_of_tick_some unfinished tick).2 ⟨rfl, rfl, rfl⟩) waits hwaits

/-- A run that comes to another outcome at once has no waits. -/
theorem not_waitsIn_of_settled (unfinished : h.finished = false) {result : RunOutcome}
    (tick : h.tick = (x, some result)) (settled : result.isWait = false) :
    ¬ h.WaitsIn i k h' o := by
  intro hwaits
  cases hwaits with
  | first run waits =>
      obtain ⟨-, -, rfl⟩ := (runs_of_tick_some unfinished tick).1 run
      cases waits.symm.trans settled
  | next run waits =>
      obtain ⟨-, -, rfl⟩ := (runs_of_tick_some unfinished tick).1 run
      cases waits.symm.trans settled

/-- The waits of a run that is about to run a statement are those behind the statement. -/
theorem waitsIn_iff_enters (unfinished : h.finished = false) (hkeeps : h.debugger.KeepsPlace)
    (enters : h.Enters line v) :
    h.WaitsIn i k h' o ↔
      ∃ m p, k = m + 1 ∧ v.process.step v.program line = (p, .goesOn) ∧
        (v.withProcess p).WaitsIn i m h' o := by
  have htick := tick_of_enters hkeeps enters
  have hexecutes := executes_execute v line
  generalize v.execute line = r at htick hexecutes
  cases hexecutes with
  | goesOn p step =>
      rw [waitsIn_of_tick_none unfinished htick]
      constructor
      · rintro ⟨m, rfl, hwaits⟩
        exact ⟨m, p, rfl, step, hwaits⟩
      · rintro ⟨m, q, rfl, hstep, hwaits⟩
        cases hstep.symm.trans step
        exact ⟨m, rfl, hwaits⟩
  | ends p step =>
      refine iff_of_false (not_waitsIn_of_settled unfinished htick rfl) ?_
      rintro ⟨m, q, -, hstep, -⟩
      cases hstep.symm.trans step
  | faults p f step r result =>
      have hsettled : r.2.isWait = false := by
        cases result with
        | fails => rfl
        | trapped => rfl
      refine iff_of_false (not_waitsIn_of_settled unfinished htick hsettled) ?_
      rintro ⟨m, q, -, hstep, -⟩
      cases hstep.symm.trans step

end Host

/-! ## Due waits -/

/-- `counter` lines since the last wait, the wait of number `i` is due `k` steps behind `p`, where
the program on its own comes to `q` and stands before a line. -/
structure Due (program : Program) (chunk : Nat) (p : Process) (counter i k : Nat) (q : Process)
    (line : SourceLine) : Prop where
  reach : p.after program k = (q, .goesOn)
  before : q.IsBefore program line
  count : counter + p.arrivals program k = i * chunk

/-- The wait is due behind the next step. -/
def DueBehind (program : Program) (chunk : Nat) (p : Process) (counter i k : Nat) (q : Process)
    (line : SourceLine) : Prop :=
  ∃ m p', k = m + 1 ∧ p.advance program = (p', .goesOn) ∧ Due program chunk p' counter i m q line

section Due

variable {p p' q : Process} {chunk counter : Nat}

/-- A wait that is due later is due behind the next step, with the arrival at `p` in the counter. -/
theorem due_succ :
    Due program chunk p counter i (m + 1) q line ↔
      DueBehind program chunk p (counter + (p.isArrival program).toNat) i (m + 1) q line := by
  constructor
  · rintro ⟨reach, before, count⟩
    rw [Process.after] at reach
    split at reach
    · next r hr =>
        rw [Process.arrivals_succ hr, ← Nat.add_assoc] at count
        exact ⟨m, r, rfl, hr, reach, before, count⟩
    · next hne => exact absurd (congrArg Prod.snd reach) (fun hgoes => hne _ (Prod.ext rfl hgoes))
  · rintro ⟨n, r, hn, hr, reach, before, count⟩
    obtain rfl : m = n := Nat.succ.inj hn
    refine ⟨?_, before, ?_⟩
    · rw [Process.after, hr]
      exact reach
    · rw [Process.arrivals_succ hr, ← Nat.add_assoc]
      exact count

/-- Behind the last line no wait is due any more. -/
theorem not_due_past (past : program.get? p.pc.line = none) :
    ¬ Due program chunk p counter i k q line := by
  intro hdue
  cases k with
  | zero =>
      obtain ⟨reach, before, -⟩ := hdue
      cases reach
      cases past.symm.trans before.found
  | succ m =>
      obtain ⟨n, r, -, hstep, -⟩ := due_succ.1 hdue
      cases (Process.advance_of_past past).symm.trans hstep

/-- Inside a line no wait is due. -/
theorem due_inside (inside : p.pc.statement ≠ 0) :
    Due program chunk p counter i k q line ↔ DueBehind program chunk p counter i k q line := by
  cases k with
  | zero =>
      refine iff_of_false ?_ ?_
      · rintro ⟨reach, before, -⟩
        cases reach
        exact inside before.first
      · rintro ⟨m, p', hm, -⟩
        cases hm
  | succ m => rw [due_succ, Process.isArrival_inside inside]; rfl

/-- Before a line that does not fill the chunk no wait is due. -/
theorem due_before (before : ∃ line, p.IsBefore program line) (unfilled : counter + 1 < chunk) :
    Due program chunk p counter i k q line ↔
      DueBehind program chunk p (counter + 1) i k q line := by
  obtain ⟨line, hbefore⟩ := before
  cases k with
  | zero =>
      refine iff_of_false ?_ ?_
      · rintro ⟨-, -, count⟩
        rw [Process.arrivals, Process.isArrival_of_before hbefore, Bool.toNat_true] at count
        cases i with
        | zero => omega
        | succ i =>
            rw [Nat.succ_mul] at count
            omega
      · rintro ⟨m, p', hm, -⟩
        cases hm
  | succ m => rw [due_succ, Process.isArrival_of_before hbefore, Bool.toNat_true]

/-- Before the line that fills the chunk a wait is due, and all others are due behind it. -/
theorem due_full (before : p.IsBefore program line) (filled : counter + 1 = chunk)
    {line' : SourceLine} :
    Due program chunk p counter i k q line' ↔
      (i = 1 ∧ k = 0 ∧ q = p ∧ line' = line) ∨
        ∃ j, i = j + 1 ∧ DueBehind program chunk p 0 j k q line' := by
  have harrival : (p.isArrival program).toNat = 1 := by
    rw [Process.isArrival_of_before before, Bool.toNat_true]
  -- What is counted from the wait on is a multiple of the chunk again.
  have hrest : ∀ a, counter + 1 + a = i * chunk ↔ ∃ j, i = j + 1 ∧ 0 + a = j * chunk := by
    intro a
    rw [filled]
    cases i with
    | zero =>
        refine iff_of_false (by omega) ?_
        rintro ⟨j, hj, -⟩
        cases hj
    | succ i =>
        rw [Nat.succ_mul]
        constructor
        · intro ha
          exact ⟨i, rfl, by omega⟩
        · rintro ⟨j, hj, ha⟩
          obtain rfl : i = j := Nat.succ.inj hj
          omega
  cases k with
  | zero =>
      constructor
      · rintro ⟨reach, before', count⟩
        cases reach
        rw [Process.arrivals, harrival] at count
        obtain ⟨j, rfl, hj⟩ := (hrest 0).1 count
        have hpos : 0 < chunk := by omega
        obtain rfl : j = 0 := by
          rcases Nat.mul_eq_zero.1 hj.symm with hzero | hzero
          · exact hzero
          · omega
        exact .inl ⟨rfl, rfl, rfl, Option.some.inj (before'.found.symm.trans before.found)⟩
      · rintro (⟨rfl, -, rfl, rfl⟩ | ⟨j, -, m, p', hm, -⟩)
        · refine ⟨rfl, before, ?_⟩
          rw [Process.arrivals, harrival, filled, Nat.one_mul]
        · cases hm
  | succ m =>
      rw [due_succ, harrival]
      constructor
      · rintro ⟨n, r, hn, hr, reach, before', count⟩
        obtain ⟨j, rfl, hj⟩ := (hrest _).1 count
        exact .inr ⟨j, rfl, n, r, hn, hr, reach, before', hj⟩
      · rintro (⟨-, hk, -⟩ | ⟨j, rfl, n, r, hn, hr, reach, before', count⟩)
        · cases hk
        · exact ⟨n, r, hn, hr, reach, before', (hrest _).2 ⟨j, rfl, count⟩⟩

end Due

/-! ## A run under its speed -/

/-- Nothing but its speed holds a run up, and `counter` lines have come since the last wait. -/
structure Throttled (program : Program) (chunk delay counter : Nat) (h : Host) : Prop where
  program : h.program = program
  running : h.finished = false
  state : h.debugger.state = .running
  disabled : h.debugger.breakpoints.All fun bp => bp.enabled = false
  unmarked : h.debugger.skipBreakpoint = none
  unstepped : h.debugger.stepMode = none
  unasked : h.machine.stop = none
  speed : h.debugger.speed ≠ 0
  pace : h.debugger.pace = ⟨some chunk, delay⟩
  counter : h.debugger.lineCounter = counter

/-- A wait has come when it was due. -/
structure WaitedAt (delay : Nat) (q : Process) (line : SourceLine) (h' : Host) (o : RunOutcome) :
    Prop where
  outcome : o = .stopped (.number line.number) .throttle delay
  process : h'.process = q
  state : h'.debugger.state = .running

/-- The waits of a run are the ones that are due. -/
def Realizes (delay : Nat) (waits : Host → RunOutcome → Prop)
    (due : Process → SourceLine → Prop) : Prop :=
  (∀ h' o, waits h' o → ∃ q line, due q line ∧ WaitedAt delay q line h' o) ∧
    ∀ q line, due q line → ∃ h' o, waits h' o ∧ WaitedAt delay q line h' o

theorem Realizes.of_iff {delay : Nat} {waits : Host → RunOutcome → Prop}
    {due due' : Process → SourceLine → Prop} (hr : Realizes delay waits due)
    (same : ∀ q line, due' q line ↔ due q line) : Realizes delay waits due' := by
  obtain ⟨hdue, hwaits⟩ := hr
  constructor
  · intro h' o hw
    obtain ⟨q, line, hq, hat⟩ := hdue h' o hw
    exact ⟨q, line, (same q line).2 hq, hat⟩
  · intro q line hq
    exact hwaits q line ((same q line).1 hq)

/-- A run that waits when the chunk is full realizes that wait and, behind it, the others. -/
theorem realizes_of_wait {chunk delay counter : Nat} {p : Process} (unfinished : h.finished = false)
    (tick : h.tick = (x, some (.stopped (.number line.number) .throttle delay)))
    (process : x.process = p) (state : x.debugger.state = .running)
    (before : p.IsBefore program line) (filled : counter + 1 = chunk)
    (rest : ∀ j, Realizes delay (x.WaitsIn j k) (DueBehind program chunk p 0 j k)) :
    Realizes delay (h.WaitsIn i k) (Due program chunk p counter i k) := by
  constructor
  · intro h' o hwaits
    rcases (waitsIn_of_wait unfinished tick rfl).1 hwaits with ⟨rfl, rfl, rfl, rfl⟩ | ⟨j, rfl, hw⟩
    · exact ⟨p, line, (due_full before filled).2 (.inl ⟨rfl, rfl, rfl, rfl⟩), rfl, process, state⟩
    · obtain ⟨q, line', hdue, hat⟩ := (rest j).1 h' o hw
      exact ⟨q, line', (due_full before filled).2 (.inr ⟨j, rfl, hdue⟩), hat⟩
  · intro q line' hdue
    rcases (due_full before filled).1 hdue with ⟨rfl, rfl, rfl, rfl⟩ | ⟨j, rfl, hbehind⟩
    · refine ⟨x, _, (waitsIn_of_wait unfinished tick rfl).2 (.inl ⟨rfl, rfl, rfl, rfl⟩), ?_⟩
      exact ⟨rfl, process, state⟩
    · obtain ⟨h', o, hw, hat⟩ := (rest j).2 q line' hbehind
      exact ⟨h', o, (waitsIn_of_wait unfinished tick rfl).2 (.inr ⟨j, rfl, hw⟩), hat⟩

namespace Throttled

variable {chunk delay counter : Nat}

theorem keepsPlace (ht : Throttled program chunk delay counter h) : h.debugger.KeepsPlace := by
  intro line
  rw [tested_disabled ht.disabled]

theorem moved (ht : Throttled program chunk delay counter h) (p : Process) :
    Throttled program chunk delay counter (h.withProcess p) :=
  ⟨ht.program, ht.running, ht.state, ht.disabled, ht.unmarked, ht.unstepped, ht.unasked, ht.speed,
    ht.pace, ht.counter⟩

theorem noted (ht : Throttled program chunk delay counter h) (line : LineId) :
    Throttled program chunk delay counter (h.withDebugger (h.debugger.noted line)) :=
  ⟨ht.program, ht.running, ht.state, ht.disabled, ht.unmarked, ht.unstepped, ht.unasked, ht.speed,
    ht.pace, ht.counter⟩

/-- A line that the program arrives at is counted, or it fills the chunk and is waited for. -/
theorem looks (ht : Throttled program chunk delay counter h)
    (unwaited : h.debugger.throttledLine = none) {d : Debugger Machine}
    (hlooks : Looks h.debugger (.number n) d) :
    (counter + 1 < chunk ∧ d.runtime = h.machine ∧ d.throttledLine = none ∧
        Throttled program chunk delay (counter + 1) (h.withDebugger d)) ∨
      (chunk ≤ counter + 1 ∧ d.runtime = { h.machine with stop := some .throttle } ∧
        d.nextDelay = delay ∧ d.throttledLine = some (.number n) ∧
        Throttled program chunk delay 0 (h.withDebugger d).takeStop.2) := by
  have htested : h.debugger.tested (.number n) = h.machine := tested_disabled ht.disabled _
  have hactive : h.debugger.state ≠ .idle := by
    rw [ht.state]
    exact fun hidle => nomatch hidle
  have hchunk : h.debugger.pace.chunk = some chunk := congrArg Pace.chunk ht.pace
  cases hlooks with
  | idle asleep => exact absurd asleep hactive
  | reentry _ waited => cases waited.symm.trans unwaited
  | broken _ _ _ hit => cases hit.symm.trans (hits_disabled ht.disabled _)
  | stepped _ _ runtime unbroken isOver =>
      unfold stepIsOver at isOver
      rw [ht.unstepped] at isOver
      cases isOver
  | resumed _ _ mark => cases (isMarked_number.1 mark).symm.trans ht.unmarked
  | halted _ _ _ _ _ speed => exact absurd speed ht.speed
  | waits _ _ _ _ _ _ chunk' pace full =>
      obtain rfl : chunk = chunk' := Option.some.inj (hchunk.symm.trans pace)
      rw [ht.counter] at full
      refine .inr ⟨full, ?_, congrArg Pace.delay ht.pace, rfl, ?_⟩
      · rw [htested]
        show { h.machine with stop := some (StopRequest.merge h.machine.stop .throttle) } = _
        rw [ht.unasked]
        rfl
      · exact ⟨ht.program, ht.running, ht.state, ht.disabled, rfl, ht.unstepped, rfl, ht.speed,
          ht.pace, rfl⟩
  | runs _ _ _ _ _ count _ counted =>
      obtain ⟨hcount, hlt⟩ := counted chunk hchunk
      rw [ht.counter] at hcount
      subst hcount
      refine .inl ⟨hlt, htested, rfl, ?_⟩
      rw [htested]
      exact ⟨ht.program, ht.running, ht.state, ht.disabled, rfl, ht.unstepped, ht.unasked,
        ht.speed, ht.pace, rfl⟩

/-- Before a line the run goes on with the line, or it waits. -/
theorem arrives (ht : Throttled program chunk delay counter h)
    (unwaited : h.debugger.throttledLine = none) (before : h.process.IsBefore h.program line) :
    (counter + 1 < chunk ∧ ∃ v, h.Enters line v ∧ v.process = h.process ∧
        v.debugger.throttledLine = none ∧ Throttled program chunk delay (counter + 1) v) ∨
      (chunk ≤ counter + 1 ∧ ∃ x,
        h.tick = (x, some (.stopped (.number line.number) .throttle delay)) ∧
        x.process = h.process ∧ x.debugger.throttledLine = some (.number line.number) ∧
        Throttled program chunk delay 0 x) := by
  have hvisit := visit_of_first before.first line.number
  have hlooks := looks_onLine h.debugger (.number line.number)
  generalize h.debugger.onLine (.number line.number) = d at hlooks hvisit
  rcases ht.looks unwaited hlooks with
    ⟨hunfilled, hruntime, hfree, hnext⟩ | ⟨hfull, hruntime, hdelay, hwaited, hnext⟩
  · refine .inl ⟨hunfilled, h.withDebugger d, ?_, congrArg Machine.process hruntime, hfree, hnext⟩
    rw [← hvisit]
    refine .visited before ?_
    rw [hvisit]
    exact hnext.unasked
  · have hprocess : d.runtime.process = h.process := by
      rw [hruntime]
      rfl
    refine .inr ⟨hfull, (h.withDebugger d).takeStop.2, ?_, hprocess, hwaited, hnext⟩
    have hasked : (h.visit line.number).machine.stop = some .throttle := by
      rw [hvisit]
      exact congrArg Machine.stop hruntime
    rw [tick_of_stop ht.keepsPlace before hasked, hvisit]
    show (_, some (RunOutcome.stopped (.number line.number) .throttle d.nextDelay)) = _
    rw [hdelay]

/-- Behind a wait the run goes on with the line. -/
theorem enters_noted (ht : Throttled program chunk delay counter h)
    (waited : h.debugger.throttledLine = some (.number line.number))
    (before : h.process.IsBefore h.program line) :
    h.Enters line (h.withDebugger (h.debugger.noted (.number line.number))) := by
  refine enters_waited ?_ before waited ht.unasked
  rw [ht.state]
  exact fun hidle => nomatch hidle

/-- Behind a statement the waits are those of the run from there on. -/
theorem realizes_behind (ht : Throttled program chunk delay counter v)
    (unwaited : v.debugger.throttledLine = none) (running : g.finished = false)
    (keeps : g.debugger.KeepsPlace) (enters : g.Enters line v)
    (rest : ∀ m < k, ∀ x : Host, Throttled program chunk delay counter x →
      x.debugger.throttledLine = none →
        Realizes delay (x.WaitsIn i m) (Due program chunk x.process counter i m)) :
    Realizes delay (g.WaitsIn i k) (DueBehind program chunk v.process counter i k) := by
  have hadvance : v.process.advance program = v.process.step v.program line := by
    have hfound := enters_found keeps enters
    rw [ht.program] at hfound ⊢
    exact Process.advance_of_found hfound
  constructor
  · intro h' o hwaits
    obtain ⟨m, p, rfl, hstep, hrest⟩ := (waitsIn_iff_enters running keeps enters).1 hwaits
    obtain ⟨q, line', hdue, hat⟩ :=
      (rest m (Nat.lt_succ_self m) _ (ht.moved p) unwaited).1 h' o hrest
    exact ⟨q, line', ⟨m, p, rfl, hadvance.trans hstep, hdue⟩, hat⟩
  · rintro q line' ⟨m, p, rfl, hstep, hdue⟩
    obtain ⟨h', o, hwaits, hat⟩ :=
      (rest m (Nat.lt_succ_self m) _ (ht.moved p) unwaited).2 q line' hdue
    refine ⟨h', o, (waitsIn_iff_enters running keeps enters).2 ?_, hat⟩
    exact ⟨m, p, rfl, hadvance.symm.trans hstep, hwaits⟩

/-- A run waits when it is due, and only then. -/
theorem realizes (ht : Throttled program chunk delay counter h)
    (unwaited : h.debugger.throttledLine = none) (below : counter < chunk) (i k : Nat) :
    Realizes delay (h.WaitsIn i k) (Due program chunk h.process counter i k) := by
  -- The steps to the wait go down with every tick but a wait, and a wait is followed by a step.
  induction k using Nat.strongRecOn generalizing h counter i with
  | ind k ih =>
    cases hfound : h.program.get? h.process.pc.line with
    | none =>
        have htick := tick_of_past hfound
        constructor
        · intro h' o hwaits
          exact absurd hwaits (not_waitsIn_of_settled ht.running htick rfl)
        · intro q line hdue
          exact absurd hdue (not_due_past (ht.program ▸ hfound))
    | some line =>
        by_cases hfirst : h.process.pc.statement = 0
        · have hbefore : h.process.IsBefore h.program line := ⟨hfound, hfirst⟩
          rcases ht.arrives unwaited hbefore with
            ⟨hunfilled, v, henters, hprocess, hfree, hnext⟩ |
              ⟨hfull, x, htick, hprocess, hwaited, hnext⟩
          · have hrest := hnext.realizes_behind hfree ht.running ht.keepsPlace henters
              fun m hm y hy hfree => ih m hm hy hfree hunfilled i
            rw [hprocess] at hrest
            rw [ht.program] at hbefore
            exact hrest.of_iff fun q line' => due_before ⟨line, hbefore⟩ hunfilled
          · have hback : x.process.IsBefore x.program line := by
              rw [hnext.program, ← ht.program]
              exact hbefore.of_pc (congrArg Process.pc hprocess)
            have hrest := fun j => (hnext.noted _).realizes_behind rfl hnext.running
              hnext.keepsPlace (hnext.enters_noted hwaited hback)
              fun m hm y hy hfree => ih m hm hy hfree (Nat.zero_lt_of_lt below) j
            rw [ht.program] at hbefore
            refine realizes_of_wait ht.running htick hprocess hnext.state hbefore (by omega) ?_
            intro j
            rw [← hprocess]
            exact hrest j
        · have hrest := ht.realizes_behind unwaited ht.running ht.keepsPlace
            (.inside hfound hfirst) fun m hm y hy hfree => ih m hm hy hfree below i
          exact hrest.of_iff fun q line' => due_inside hfirst

end Throttled

/-! ## The counter -/

namespace Debugger

variable {d d' : Debugger Machine}

/-- The counter is below the chunk; where there is no chunk it rests. -/
def Counted (d : Debugger Machine) : Prop := d.lineCounter < d.pace.chunk.getD 1

theorem chunk_pos (speed : Nat) : 0 < (Pace.ofSpeed speed).chunk.getD 1 := by
  unfold Pace.ofSpeed
  split
  · exact Nat.one_pos
  · split
    · exact Nat.one_pos
    · exact Nat.succ_pos _

/-- No chunk is longer than twenty lines. -/
theorem chunk_le (speed : Nat) : (Pace.ofSpeed speed).chunk.getD 1 ≤ 20 := by
  unfold Pace.ofSpeed
  split
  · decide
  · next hslow =>
      unfold maxSpeed at hslow
      split
      · decide
      · show speed / 5 + 1 ≤ 20
        omega

/-- A counter that starts anew is below any chunk. -/
theorem counted_of_zero (hd : d.Counted) (pace : d'.pace = d.pace) (zero : d'.lineCounter = 0) :
    d'.Counted := by
  unfold Counted at hd ⊢
  rw [pace, zero]
  exact Nat.zero_lt_of_lt hd

theorem counted_atPause {α : Type} (hd : d.Counted) (purpose : String)
    (snippet : Variables → Answer α) : (d.atPause purpose snippet).2.Counted := by
  simpa [Counted] using hd

theorem counted_start (hd : d.Counted) : d.start.Counted :=
  counted_of_zero hd (by simp) (by simp)

theorem counted_reset (hd : d.Counted) : d.reset.Counted :=
  counted_of_zero hd (by simp) (by simp)

theorem counted_apply (hd : d.Counted) (c : Control) : (c.apply d).Counted := by
  cases c with
  | pause | resume => simpa [Counted] using hd
  | step mode => by_cases hidle : d.state = .idle <;> simpa [Counted, hidle] using hd
  | setSpeed speed => exact chunk_pos _
  | eval expression => exact counted_atPause hd _ _
  | exec statement => exact counted_atPause hd _ _
  | reset => exact counted_reset hd
  | restart => exact counted_start hd
  | setBreakOnError | addBreakpoint | removeBreakpoint | toggleBreakpoint
  | clearBreakpoints | importBreakpoints | writeVariables | takeOutput | detach | subscribe
  | unsubscribe => exact hd

theorem counted_looks {line : LineId} (hd : d.Counted) (h : Looks d line d') : d'.Counted := by
  cases h with
  | idle | reentry | resumed | halted => exact hd
  | broken | stepped | waits => exact counted_of_zero hd rfl rfl
  | runs _ _ _ _ _ counter _ counted uncounted =>
      show counter < d.pace.chunk.getD 1
      cases hchunk : d.pace.chunk with
      | none =>
          unfold Counted at hd
          rw [uncounted hchunk, ← hchunk]
          exact hd
      | some chunk => exact (counted chunk hchunk).2

end Debugger

namespace Host

theorem counted_finish (hd : h.debugger.Counted) : h.finish.debugger.Counted := counted_reset hd

theorem counted_executes {r : Host × Option RunOutcome} (hd : h.debugger.Counted)
    (hexecutes : h.Executes line r) : r.1.debugger.Counted := by
  cases hexecutes with
  | goesOn => exact hd
  | ends => exact counted_finish hd
  | faults p f step r result =>
      cases result with
      | fails => exact counted_finish hd
      | trapped => exact hd

theorem counted_visit (hd : h.debugger.Counted) (number : Nat) :
    (h.visit number).debugger.Counted := by
  unfold visit
  split
  · exact counted_looks hd (looks_onLine _ _)
  · exact hd

theorem counted_tick (hc : Coherent program h) (hd : h.debugger.Counted) :
    h.tick.1.debugger.Counted := by
  have hticks := ticks_tick hc.keepsPlace
  generalize h.tick = r at hticks
  cases hticks with
  | past => exact counted_finish hd
  | stops line => exact counted_visit hd line.number
  | runs line v henters =>
      refine counted_executes ?_ (executes_execute v line)
      cases henters with
      | inside => exact hd
      | visited => exact counted_visit hd line.number

end Host

/-- The counter is below the chunk between the runs of a session. -/
theorem counted_session (session : DebugSession program h last) : h.debugger.Counted := by
  induction session with
  | load => exact Nat.one_pos
  | @start h _ session stopOnEntry ih =>
      have hfresh : (h.start false).debugger.Counted := counted_start ih
      cases stopOnEntry with
      | false => exact hfresh
      | true => exact counted_apply hfresh (.step .intoCalls)
  | command session c ih => exact counted_apply ih c
  | run session result ih => exact (session_coherent session).run_keeps counted_tick ih result

/-! ## The waits from a start -/

/-- A start begins a new chunk. -/
theorem throttled_start (session : DebugSession program g last)
    (slow : 1 ≤ g.debugger.speed ∧ g.debugger.speed ≤ 99)
    (disabled : g.debugger.breakpoints.All fun bp => bp.enabled = false) :
    Throttled program (g.debugger.speed / 5 + 1) ((100 - g.debugger.speed) * 2) 0
        (g.start false) ∧
      (g.start false).debugger.throttledLine = none ∧
      (g.start false).process = Process.initial := by
  have hc := session_coherent session
  have hpace : g.debugger.pace =
      ⟨some (g.debugger.speed / 5 + 1), (100 - g.debugger.speed) * 2⟩ := by
    rw [hc.paced]
    unfold Pace.ofSpeed maxSpeed
    rw [if_neg (by omega), if_neg (by omega)]
  rw [start_false]
  exact ⟨⟨hc.program, rfl, rfl, disabled, rfl, rfl, rfl, Nat.ne_of_gt slow.1, hpace, rfl⟩, rfl, rfl⟩

/--
A program is started at a speed from 1 to 99, with no breakpoint enabled, and then only run again
and again.  The run waits before a line for the `i`-th time just when the program on its own arrives
at a line for the time of number `i * (speed / 5 + 1)`; such a wait carries its delay and leaves the
debugger running.  At any moment of any session the counter is below the chunk, and no chunk is
longer than twenty lines.
-/
theorem throttle_chunks (session : DebugSession program g last)
    (slow : 1 ≤ g.debugger.speed ∧ g.debugger.speed ≤ 99)
    (disabled : g.debugger.breakpoints.All fun bp => bp.enabled = false) :
    (∀ i k h' o, (g.start false).WaitsIn i k h' o →
      ∃ line, Process.initial.after program k = (h'.process, .goesOn) ∧
        h'.process.IsBefore program line ∧
        Process.initial.arrivals program k = i * (g.debugger.speed / 5 + 1) ∧
        o = .stopped (.number line.number) .throttle ((100 - g.debugger.speed) * 2) ∧
        h'.debugger.state = .running) ∧
    (∀ i k p line, Process.initial.after program k = (p, .goesOn) → p.IsBefore program line →
      Process.initial.arrivals program k = i * (g.debugger.speed / 5 + 1) →
        ∃ h' o, (g.start false).WaitsIn i k h' o) ∧
    ∀ h last n x, DebugSession program h last → h.after n = some x →
      x.debugger.lineCounter < x.debugger.pace.chunk.getD 1 ∧
        x.debugger.pace.chunk.getD 1 ≤ 20 := by
  obtain ⟨hthrottled, hunwaited, hinitial⟩ := throttled_start session slow disabled
  have hrealizes := hthrottled.realizes hunwaited (Nat.succ_pos _)
  rw [hinitial] at hrealizes
  refine ⟨?_, ?_, ?_⟩
  · intro i k h' o hwaits
    obtain ⟨q, line, ⟨reach, before, count⟩, outcome, rfl, state⟩ := (hrealizes i k).1 h' o hwaits
    rw [Nat.zero_add] at count
    exact ⟨line, reach, before, count, outcome, state⟩
  · intro i k p line reach before count
    obtain ⟨h', o, hwaits, -⟩ :=
      (hrealizes i k).2 p line ⟨reach, before, (Nat.zero_add _).trans count⟩
    exact ⟨h', o, hwaits⟩
  · intro h last n x hsession reach
    have hc := session_coherent hsession
    refine ⟨hc.after_keeps counted_tick (counted_session hsession) reach, ?_⟩
    rw [(hc.after reach).paced]
    exact chunk_le _

/-! ## Waits of a loop with a call -/

/-- A loop that calls a subroutine in each round. -/
def Program.rounds : Program :=
  ⟨⟨[(10, ⟨10, "10 gosub 20: goto 10", 0, 20, ⟨some 10, [.gosub 20, .goto 10]⟩⟩),
    (20, ⟨20, "20 return", 21, 9, ⟨some 20, [.return]⟩⟩)], by decide⟩⟩

/-- The loop at a speed of seven. -/
def Host.slowed : Host := (Host.ofProgram .rounds).command (.setSpeed 7)

/-- The loop waits for the second time at its fourth arrival, which is four steps from the start:
the return into the first line is none. -/
theorem throttle_chunks_rounds :
    (DebugSession .rounds slowed none ∧ (1 ≤ slowed.debugger.speed ∧ slowed.debugger.speed ≤ 99) ∧
      (slowed.debugger.breakpoints.All fun bp => bp.enabled = false)) ∧
    Process.initial.arrivals .rounds 4 = 2 * 2 ∧
      ∃ h' o, (slowed.start false).WaitsIn 2 4 h' o ∧ h'.process.pc = ⟨1, 0⟩ ∧
        o = .stopped (.number 20) .throttle 186 := by
  have hsession : DebugSession .rounds slowed none := .command .load (.setSpeed 7)
  have hslow : 1 ≤ slowed.debugger.speed ∧ slowed.debugger.speed ≤ 99 := by decide
  have hdisabled : slowed.debugger.breakpoints.All fun bp => bp.enabled = false := by
    intro n bp hfound
    cases hfound
  have harrivals : Process.initial.arrivals .rounds 4 = 2 * 2 := rfl
  obtain ⟨hwaited, hwaits, -⟩ := throttle_chunks hsession hslow hdisabled
  obtain ⟨h', o, hw⟩ := hwaits 2 4 _ _ (show Process.initial.after .rounds 4 = (_, _) from rfl)
    ⟨rfl, rfl⟩ harrivals
  obtain ⟨line, hreach, hbefore, -, rfl, -⟩ := hwaited 2 4 h' o hw
  have hpc : h'.process.pc = ⟨1, 0⟩ := congrArg (fun r => r.1.pc) hreach.symm
  have hfound := hbefore.found
  rw [hpc] at hfound
  cases hfound
  exact ⟨⟨hsession, hslow, hdisabled⟩, harrivals, h', _, hw, hpc, rfl⟩

end LineBasic
