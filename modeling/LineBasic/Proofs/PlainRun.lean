import LineBasic.Host

/-!
# A program on its own

A program that no debugger looks at runs by `Process.advance` alone.  This module counts its steps,
so that a program under the debugger can be compared with it step by step, and it says at which of
its steps the program stands before a line.

## Main definitions

* `Process.after`: the program after a number of steps, and how it has ended by then, if it has.
* `Process.IsBefore`: the program stands before the first statement of a line.
* `Process.Lands`: running on, past all lines that are no goal, up to the first line that is one,
  or to the end of the program.

## Main results

* `after_add`: steps are counted additively.
* `advance_behind`: what was printed before has no part in a step.
-/

namespace LineBasic

namespace Process

variable {program : Program}

/-! ## One step -/

/-- On a line, a step runs the next statement of the line. -/
@[simp] theorem advance_of_found {p : Process} {line : SourceLine}
    (found : program.get? p.pc.line = some line) : p.advance program = p.step program line := by
  unfold advance
  rw [found]

/-- Behind the last line, the program ends. -/
@[simp] theorem advance_of_past {p : Process} (past : program.get? p.pc.line = none) :
    p.advance program = (p, .ends) := by
  unfold advance
  rw [past]

/-! ## Counted steps -/

/-- The program after `n` steps, with the end that it has come to by then.  An ended program stays
as it is. -/
def after (program : Program) : Nat → Process → Process × StepEnd
  | 0, p => (p, .goesOn)
  | n + 1, p =>
      match p.advance program with
      | (q, .goesOn) => after program n q
      | ended => ended

/-- A program that goes on for `m` steps is, `n` steps later, where it is after `m + n` steps. -/
theorem after_add {m : Nat} {p q : Process} (h : p.after program m = (q, .goesOn)) (n : Nat) :
    p.after program (m + n) = q.after program n := by
  induction m generalizing p with
  | zero =>
      rw [after] at h
      rw [Nat.zero_add, (Prod.mk.inj h).1]
  | succ m ih =>
      rw [Nat.succ_add, after]
      rw [after] at h
      split at h
      · next r hr => exact ih h
      · next ended hne =>
          rw [h] at hne
          exact absurd rfl (hne q)

/-- A step at a time: the step after the first `n`. -/
theorem after_succ {n : Nat} {p q : Process} (h : p.after program n = (q, .goesOn)) :
    p.after program (n + 1) = q.advance program := by
  rw [after_add h, after]
  split
  · next r hr => rw [hr, after]
  · rfl

/-- A flow that cannot be followed leaves the program where it is. -/
theorem follow_fails {number : Nat} {p q : Process} {flow : Flow} {f : Fault}
    (h : p.follow program number flow = (q, .fails f)) : q = p := by
  cases flow with
  | next => cases h
  | goto line =>
      simp only [follow] at h
      split at h <;> cases h
      rfl
  | gosub line =>
      simp only [follow] at h
      split at h <;> cases h
      rfl
  | «return» =>
      simp only [follow] at h
      split at h <;> cases h
      rfl
  | «end» => cases h

/-- A program that fails stands on the statement that has failed. -/
theorem step_fails_pc {line : SourceLine} {p q : Process} {f : Fault}
    (h : p.step program line = (q, .fails f)) : q.pc = p.pc := by
  unfold step at h
  split at h
  · cases h
  · dsimp only at h
    split at h
    · rw [follow_fails h]
    · cases h
      rfl

/-! ## Lines and goals -/

/-- The program stands before the first statement of a line. -/
structure IsBefore (program : Program) (p : Process) (line : SourceLine) : Prop where
  found : program.get? p.pc.line = some line
  first : p.pc.statement = 0

/-- Where a program stands is a matter of its position alone. -/
theorem IsBefore.of_pc {p q : Process} {line : SourceLine} (h : IsBefore program p line)
    (same : q.pc = p.pc) : IsBefore program q line := by
  refine ⟨?_, ?_⟩
  · rw [same]
    exact h.found
  · rw [same]
    exact h.first

/-- From `p` the program runs `n` steps and comes to an outcome at `p'`: it stands before a line
that is a goal, and before no other such line on the way, or it has ended or failed before that.
The line that it runs from is behind it, whether it is a goal or not. -/
inductive Lands (program : Program) (goal : Process → Prop) :
    Process → Nat → Process → RunOutcome → Prop where
  | ends {p p' : Process} (step : p.advance program = (p', .ends)) :
      Lands program goal p 0 p' .finished
  | fails {p p' : Process} {f : Fault} {line : SourceLine}
      (found : program.get? p.pc.line = some line) (step : p.advance program = (p', .fails f)) :
      Lands program goal p 0 p' (.failed (f.atLine (.number line.number)))
  | arrives {p p' : Process} {line : SourceLine} (step : p.advance program = (p', .goesOn))
      (before : IsBefore program p' line) (good : goal p') :
      Lands program goal p 1 p' (.stopped (.number line.number) .pause 0)
  | passes {p q p' : Process} {n : Nat} {o : RunOutcome} (step : p.advance program = (q, .goesOn))
      (past : ∀ line, IsBefore program q line → ¬ goal q) (rest : Lands program goal q n p' o) :
      Lands program goal p (n + 1) p' o

variable {goal : Process → Prop} {p q p' : Process} {n : Nat} {o : RunOutcome}

theorem lands_of_ends (step : p.advance program = (q, .ends)) :
    Lands program goal p n p' o ↔ n = 0 ∧ p' = q ∧ o = .finished := by
  constructor
  · intro hlands
    cases hlands with
    | ends hstep =>
        cases hstep.symm.trans step
        exact ⟨rfl, rfl, rfl⟩
    | fails _ hstep | arrives hstep | passes hstep => cases hstep.symm.trans step
  · rintro ⟨rfl, rfl, rfl⟩
    exact .ends step

theorem lands_of_fails {line : SourceLine} {f : Fault}
    (found : program.get? p.pc.line = some line) (step : p.advance program = (q, .fails f)) :
    Lands program goal p n p' o ↔
      n = 0 ∧ p' = q ∧ o = .failed (f.atLine (.number line.number)) := by
  constructor
  · intro hlands
    cases hlands with
    | fails hfound hstep =>
        cases hstep.symm.trans step
        cases hfound.symm.trans found
        exact ⟨rfl, rfl, rfl⟩
    | ends hstep | arrives hstep | passes hstep => cases hstep.symm.trans step
  · rintro ⟨rfl, rfl, rfl⟩
    exact .fails found step

/-- A step that comes to a goal ends the way. -/
theorem lands_of_arrives {line : SourceLine} (step : p.advance program = (q, .goesOn))
    (before : IsBefore program q line) (good : goal q) :
    Lands program goal p n p' o ↔
      n = 1 ∧ p' = q ∧ o = .stopped (.number line.number) .pause 0 := by
  constructor
  · intro hlands
    cases hlands with
    | ends hstep | fails _ hstep => cases hstep.symm.trans step
    | arrives hstep hbefore hgood =>
        cases hstep.symm.trans step
        cases hbefore.found.symm.trans before.found
        exact ⟨rfl, rfl, rfl⟩
    | passes hstep past rest =>
        cases hstep.symm.trans step
        exact absurd good (past line before)
  · rintro ⟨rfl, rfl, rfl⟩
    exact .arrives step before good

/-- A step that comes to no goal is the first of the way. -/
theorem lands_of_passes (step : p.advance program = (q, .goesOn))
    (past : ∀ line, IsBefore program q line → ¬ goal q) :
    Lands program goal p n p' o ↔ ∃ m, n = m + 1 ∧ Lands program goal q m p' o := by
  constructor
  · intro hlands
    cases hlands with
    | ends hstep | fails _ hstep => cases hstep.symm.trans step
    | arrives hstep hbefore hgood =>
        cases hstep.symm.trans step
        exact absurd hgood (past _ hbefore)
    | passes hstep _ rest =>
        cases hstep.symm.trans step
        exact ⟨_, rfl, rest⟩
  · rintro ⟨m, rfl, rest⟩
    exact .passes step past rest

/-! ## Printed text -/

/-- The process with a text printed before its own output. -/
def behind (printed : String) (p : Process) : Process :=
  { p with output := printed ++ p.output }

theorem follow_behind (printed : String) (number : Nat) (p : Process) (flow : Flow) :
    (p.behind printed).follow program number flow =
      ((p.follow program number flow).1.behind printed, (p.follow program number flow).2) := by
  cases flow with
  | next => rfl
  | goto line =>
      simp only [follow]
      cases target program line <;> rfl
  | gosub line =>
      simp only [follow]
      cases target program line <;> rfl
  | «return» =>
      obtain ⟨pc, calls, vars, output⟩ := p
      cases calls <;> rfl
  | «end» => rfl

/-- What was printed before has no part in a step. -/
theorem advance_behind (printed : String) (p : Process) :
    (p.behind printed).advance program =
      ((p.advance program).1.behind printed, (p.advance program).2) := by
  simp only [advance, behind]
  cases program.get? p.pc.line with
  | none => rfl
  | some line =>
      simp only [step]
      cases line.compiled.statements[p.pc.statement]? with
      | none => rfl
      | some s =>
          dsimp only
          rw [String.append_assoc]
          cases (s.run p.vars).flow with
          | ok flow =>
              exact follow_behind printed line.number
                { p with
                  vars := (s.run p.vars).vars, output := p.output ++ (s.run p.vars).printed } flow
          | error f => rfl

end Process

end LineBasic
