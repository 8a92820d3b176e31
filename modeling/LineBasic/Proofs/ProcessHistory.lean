import LineBasic.Proofs.Operations
import LineBasic.Proofs.Session

/-!
# Histories under a rule

A running program changes in its own steps, in the start of a run, and by what is done to it from
outside: snippets run at a pause, conditions are tested before a line, and the embedder acts on the
program between two runs.  How far an embedder may go differs from one property to another.  One
property needs a program that nobody moves, another one needs variables that nobody writes.

A rule is therefore a relation between a process and what an act from outside makes of it.  It admits
snippets, since these are part of every debugger.  For a given rule, a property of processes that
steps and acts keep holds in every history.

## Main definitions

* `Process.settled`: a process behind a snippet.
* `Admits`: a rule under which snippets can run.
* `Operation.Obeys`: an operation acts on the program under a rule.
* `HistoryWithin`: the hosts that a program can come to under a rule.

## Main results

* `Debugger.rule_apply`: under a rule, every operation obeys it.
* `Host.process_keeps`: what steps and acts keep holds in every history.
-/

namespace LineBasic

/-- A process behind a snippet. -/
def Process.settled {α : Type} (p : Process) (a : Answer α) : Process :=
  { p with vars := a.vars, output := p.output ++ a.printed }

/-- A rule for acts from outside admits snippets. -/
structure Admits (R : Process → Process → Prop) : Prop where
  refl (p : Process) : R p p
  evaluate (expression : String) (p : Process) :
    R p (p.settled (Snippet.evaluate expression p.vars))
  execute (statement : String) (p : Process) : R p (p.settled (Snippet.execute statement p.vars))

/-- A condition test acts on the program under a rule. -/
def ConditionTest.Obeys (R : Process → Process → Prop) (test : ConditionTest Machine) : Prop :=
  ∀ condition (m : Machine), R m.process (test condition m).2.process

/-- An operation acts on the program under a rule. -/
def Operation.Obeys (R : Process → Process → Prop) : Operation Machine → Prop
  | setConditionTest test => ∀ t, test = some t → ConditionTest.Obeys R t
  | act change => ∀ m : Machine, R m.process (change m).process
  | _ => True

/-- What can become of a host of a program under a rule, also in the middle of a run. -/
inductive HistoryWithin (R : Process → Process → Prop) (program : Program) : Host → Prop where
  | load : HistoryWithin R program (Host.ofProgram program)
  | start {h : Host} (history : HistoryWithin R program h) (stopOnEntry : Bool) :
      HistoryWithin R program (h.start stopOnEntry)
  | operate {h : Host} (history : HistoryWithin R program h) (op : Operation Machine)
      (obeys : op.Obeys R) : HistoryWithin R program (h.withDebugger (op.apply h.debugger))
  | tick {h : Host} (history : HistoryWithin R program h) (underway : h.finished = false) :
      HistoryWithin R program h.tick.1
  | run {h h' : Host} {fuel : Nat} {o : RunOutcome} (history : HistoryWithin R program h)
      (result : h.run fuel = some (h', o)) : HistoryWithin R program h'

variable {R : Process → Process → Prop}

/-! ## Operations -/

namespace Debugger

variable {d d' : Debugger Machine} {line : LineId}

/-- The condition test of a debugger acts on the program under a rule. -/
def TestsObey (R : Process → Process → Prop) (d : Debugger Machine) : Prop :=
  ∀ test, d.conditionTest = some test → ConditionTest.Obeys R test

theorem rule_evaluatorTest (admits : Admits R) : ConditionTest.Obeys R evaluatorTest :=
  fun condition m => admits.evaluate condition m.process

theorem rule_tested (admits : Admits R) (tests : d.TestsObey R) (line : LineId) :
    R d.runtime.process (d.tested line).process := by
  rw [tested_eq]
  split
  · next bp hbp =>
      split
      · cases hcondition : bp.condition with
        | none => exact admits.refl _
        | some text =>
            cases htest : d.conditionTest with
            | none => exact admits.refl _
            | some test => exact tests test htest text d.runtime
      · exact admits.refl _
  · exact admits.refl _

theorem rule_looks (admits : Admits R) (tests : d.TestsObey R) (h : Looks d line d') :
    R d.runtime.process d'.runtime.process ∧ d'.TestsObey R := by
  refine ⟨?_, by cases h <;> exact tests⟩
  rcases looks_process h with hsame | htested
  · rw [hsame]
    exact admits.refl _
  · rw [htested]
    exact rule_tested admits tests line

theorem rule_atPause {α : Type} (admits : Admits R) (tests : d.TestsObey R) (purpose : String)
    {snippet : Variables → Answer α} (hsnippet : ∀ p : Process, R p (p.settled (snippet p.vars))) :
    R d.runtime.process (d.atPause purpose snippet).2.runtime.process ∧
      (d.atPause purpose snippet).2.TestsObey R := by
  rw [atPause_eq]
  refine ⟨?_, tests⟩
  dsimp only
  split
  · exact hsnippet d.runtime.process
  · exact admits.refl _

/-- Under a rule, every operation obeys it, and brings in no test that does not. -/
theorem rule_apply (admits : Admits R) (tests : d.TestsObey R) (op : Operation Machine)
    (obeys : op.Obeys R) :
    R d.runtime.process (op.apply d).runtime.process ∧ (op.apply d).TestsObey R := by
  cases op with
  | start | reset | pause | resume => simpa [TestsObey] using ⟨admits.refl _, tests⟩
  | step mode =>
      rcases Decidable.em (d.state = .idle) with asleep | active
      · simpa [asleep] using ⟨admits.refl _, tests⟩
      · simpa [TestsObey, active] using ⟨admits.refl _, tests⟩
  | onLine line => exact rule_looks admits tests (looks_onLine d line)
  | handleError f =>
      show R d.runtime.process (d.handleError f).2.runtime.process ∧ (d.handleError f).2.TestsObey R
      have hreceives := receives_handleError d f
      generalize d.handleError f = r at hreceives
      cases hreceives with
      | ignored | passed => exact ⟨admits.refl _, tests⟩
      | taken =>
          rw [pauseWith_eq]
          exact ⟨admits.refl _, tests⟩
  | eval expression => exact rule_atPause admits tests "evaluate" (admits.evaluate expression)
  | exec statement => exact rule_atPause admits tests "execute" (admits.execute statement)
  | setConditionTest test => exact ⟨admits.refl _, obeys⟩
  | useEvaluatorConditions =>
      refine ⟨admits.refl _, fun test htest => ?_⟩
      cases htest
      exact rule_evaluatorTest admits
  | act change => exact ⟨obeys d.runtime, tests⟩
  | detach | setBreakOnError | setSpeed | addBreakpoint | removeBreakpoint | toggleBreakpoint
  | clearBreakpoints | importBreakpoints | setEvaluator | setSourceMap | subscribe | unsubscribe =>
      exact ⟨admits.refl _, tests⟩

end Debugger

/-! ## Histories -/

namespace Host

open Debugger

/-- The host of a program that is acted on under a rule, with a property of its process. -/
structure Keeps (R : Process → Process → Prop) (program : Program) (P : Process → Prop) (h : Host) :
    Prop where
  program : h.program = program
  tests : h.debugger.TestsObey R
  holds : P h.process

variable {program : Program} {P : Process → Prop} {h : Host} {line : SourceLine}

theorem Keeps.finish (hk : Keeps R program P h) : Keeps R program P h.finish := by
  have hholds : P h.finish.process := by
    rw [h.finish_process]
    exact hk.holds
  rw [finish_eq] at hholds ⊢
  exact ⟨hk.program, hk.tests, hholds⟩

theorem Keeps.execute (hk : Keeps R program P h)
    (hstep : ∀ {p : Process}, P p → P (p.step program line).1) :
    Keeps R program P (h.execute line).1 := by
  have hmoved : ∀ {p : Process} {stepEnd : StepEnd},
      h.process.step h.program line = (p, stepEnd) → Keeps R program P (h.withProcess p) := by
    intro p stepEnd step
    refine ⟨hk.program, hk.tests, ?_⟩
    have hnext := hstep hk.holds
    rw [← hk.program, step] at hnext
    exact hnext
  have hexecutes := executes_execute h line
  generalize h.execute line = r at hexecutes
  cases hexecutes with
  | goesOn p step => exact hmoved step
  | ends p step => exact (hmoved step).finish
  | faults p f step r result =>
      have hfaulty := hmoved step
      cases result with
      | fails => exact hfaulty.finish
      | trapped => exact ⟨hfaulty.program, hfaulty.tests, hfaulty.holds⟩

variable (admits : Admits R) (hact : ∀ {p q : Process}, R p q → P p → P q)
include admits hact

theorem Keeps.operate (hk : Keeps R program P h) (op : Operation Machine) (obeys : op.Obeys R) :
    Keeps R program P (h.withDebugger (op.apply h.debugger)) := by
  obtain ⟨hrule, htests⟩ := rule_apply admits hk.tests op obeys
  exact ⟨hk.program, htests, hact hrule hk.holds⟩

theorem Keeps.visit (hk : Keeps R program P h) (number : Nat) :
    Keeps R program P (h.visit number) := by
  unfold Host.visit
  split
  · exact hk.operate admits hact (.onLine (.number number)) trivial
  · exact hk

theorem Keeps.start (hk : Keeps R program P h) (hinitial : P Process.initial)
    (stopOnEntry : Bool) : Keeps R program P (h.start stopOnEntry) := by
  have hfresh : Keeps R program P (h.start false) := by
    rw [start_false]
    exact ⟨hk.program, hk.tests, hinitial⟩
  cases stopOnEntry with
  | false => exact hfresh
  | true => exact hfresh.operate admits hact (.step .intoCalls) trivial

theorem Keeps.tick (hk : Keeps R program P h)
    (hstep : ∀ {p : Process} {line : SourceLine}, line ∈ program.lines → P p →
      P (p.step program line).1) :
    Keeps R program P h.tick.1 := by
  unfold Host.tick
  split
  · exact hk.finish
  · next line hline =>
      have hmem : line ∈ program.lines := by
        rw [← hk.program]
        exact List.mem_of_getElem? hline
      dsimp only
      have hvisit := hk.visit admits hact line.number
      have hstop : Keeps R program P
          (if (h.visit line.number).process.pc.statement = 0 then (h.visit line.number).takeStop
            else (none, h.visit line.number)).2 := by
        split
        · exact ⟨hvisit.program, hvisit.tests, hvisit.holds⟩
        · exact hvisit
      split
      · exact hstop
      · exact hstop.execute fun hp => hstep hmem hp

/-- A property of processes that steps of the program keep, and acts under a rule, holds in every
history under this rule. -/
theorem process_keeps (hinitial : P Process.initial)
    (hstep : ∀ {p : Process} {line : SourceLine}, line ∈ program.lines → P p →
      P (p.step program line).1)
    (history : HistoryWithin R program h) : P h.process := by
  have hkeeps : Keeps R program P h := by
    induction history with
    | load =>
        refine ⟨rfl, fun test htest => ?_, hinitial⟩
        cases htest
        exact rule_evaluatorTest admits
    | start _ b ih => exact ih.start admits hact hinitial b
    | operate _ op obeys ih => exact ih.operate admits hact op obeys
    | tick _ _ ih => exact ih.tick admits hact hstep
    | run _ result ih => exact run_of_tick (fun hg => hg.tick admits hact hstep) ih result
  exact hkeeps.holds

end Host

end LineBasic
