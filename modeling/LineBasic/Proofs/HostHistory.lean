import LineBasic.Proofs.ProcessHistory

/-!
# Histories of a host

Between two runs of a program anything may be asked of its debugger, and its embedder may act on the
program as well: it collects the output, and reads and writes variables.  All of this comes from
outside the program.  The program moves in its own steps only, and in the start of a run, which
takes it back to its first line.

A history of a host is therefore any order of starts, runs and operations that leave the program
where it stands.  The condition test of an embedder is under the same rule, since it is handed the
program in the middle of a run.

## Main definitions

* `Machine.Stays`: the program stands where it stood, with the same calls pending.
* `Operation.IsOutside`: an operation does not move the program of its own accord.
* `HostHistory`: the hosts that a program can come to.

## Main results

* `stays_apply`: no operation from outside moves the program.
* `Host.stays_of_outcome`: nor does a tick that comes to an outcome.
* `Host.history_keeps`: what starts, operations and ticks keep holds in every history.
* `Host.history_performs`: the debugger of a host has a history of its own.
-/

namespace LineBasic

/-! ## Programs that stay -/

/-- The program stands where it stood, with the same calls pending. -/
structure Machine.Stays (m m' : Machine) : Prop where
  pc : m'.process.pc = m.process.pc
  calls : m'.process.calls = m.process.calls

theorem Machine.stays_refl (m : Machine) : m.Stays m := ⟨rfl, rfl⟩

theorem Machine.Stays.trans {m m' m'' : Machine} (h : m.Stays m') (h' : m'.Stays m'') :
    m.Stays m'' :=
  ⟨h'.pc.trans h.pc, h'.calls.trans h.calls⟩

/-- A condition test does not move the program. -/
def ConditionTest.IsOutside (test : ConditionTest Machine) : Prop :=
  ∀ condition (m : Machine), m.Stays (test condition m).2

/-- An operation does not move the program of its own accord. -/
def Operation.IsOutside : Operation Machine → Prop
  | setConditionTest test => ∀ t, test = some t → ConditionTest.IsOutside t
  | act change => ∀ m : Machine, m.Stays (change m)
  | _ => True

/-- A process stands where another one stands, with the same calls pending. -/
def Process.StandsAs (p q : Process) : Prop := q.pc = p.pc ∧ q.calls = p.calls

theorem Process.admits_standsAs : Admits Process.StandsAs where
  refl _ := ⟨rfl, rfl⟩
  evaluate _ _ := ⟨rfl, rfl⟩
  execute _ _ := ⟨rfl, rfl⟩

theorem Operation.IsOutside.obeys {op : Operation Machine} (outside : op.IsOutside) :
    op.Obeys Process.StandsAs := by
  cases op with
  | setConditionTest test =>
      exact fun t ht condition m =>
        ⟨(outside t ht condition m).pc, (outside t ht condition m).calls⟩
  | act change => exact fun m => ⟨(outside m).pc, (outside m).calls⟩
  | _ => trivial

/-- What can become of a host of a program. -/
inductive HostHistory (program : Program) : Host → Prop where
  | load : HostHistory program (Host.ofProgram program)
  | start {h : Host} (history : HostHistory program h) (stopOnEntry : Bool) :
      HostHistory program (h.start stopOnEntry)
  | operate {h : Host} (history : HostHistory program h) (op : Operation Machine)
      (outside : op.IsOutside) : HostHistory program (h.withDebugger (op.apply h.debugger))
  | run {h h' : Host} {fuel : Nat} {o : RunOutcome} (history : HostHistory program h)
      (result : h.run fuel = some (h', o)) : HostHistory program h'

namespace Debugger

variable {d d' : Debugger Machine} {line : LineId}

/-- The condition test of a debugger does not move the program. -/
def TestsOutside (d : Debugger Machine) : Prop :=
  ∀ test, d.conditionTest = some test → ConditionTest.IsOutside test

theorem isOutside_evaluatorTest : ConditionTest.IsOutside evaluatorTest := fun _ _ => ⟨rfl, rfl⟩

theorem TestsOutside.obey (tests : d.TestsOutside) : d.TestsObey Process.StandsAs :=
  fun test htest condition m =>
    ⟨(tests test htest condition m).pc, (tests test htest condition m).calls⟩

theorem testsOutside_of_obey (tests : d.TestsObey Process.StandsAs) : d.TestsOutside :=
  fun test htest condition m =>
    ⟨(tests test htest condition m).1, (tests test htest condition m).2⟩

theorem TestsOutside.keepsPlace (tests : d.TestsOutside) : d.KeepsPlace :=
  fun line => (rule_tested Process.admits_standsAs tests.obey line).1

theorem looks_stays (tests : d.TestsOutside) (h : Looks d line d') :
    d.runtime.Stays d'.runtime := by
  obtain ⟨⟨hpc, hcalls⟩, -⟩ := rule_looks Process.admits_standsAs tests.obey h
  exact ⟨hpc, hcalls⟩

theorem looks_testsOutside (tests : d.TestsOutside) (h : Looks d line d') : d'.TestsOutside := by
  cases h <;> exact tests

/-- No operation from outside moves the program, or brings in a test that does. -/
theorem stays_apply (tests : d.TestsOutside) (op : Operation Machine) (outside : op.IsOutside) :
    d.runtime.Stays (op.apply d).runtime ∧ (op.apply d).TestsOutside := by
  obtain ⟨⟨hpc, hcalls⟩, htests⟩ :=
    rule_apply Process.admits_standsAs tests.obey op outside.obeys
  exact ⟨⟨hpc, hcalls⟩, testsOutside_of_obey htests⟩

end Debugger

/-! ## Ticks -/

namespace Process

variable {program : Program} {line : SourceLine} {p q : Process} {stepEnd : StepEnd}

/-- A flow that is not followed leaves the program where it is. -/
theorem follow_eq_of_not_goesOn {number : Nat} {flow : Flow}
    (h : p.follow program number flow = (q, stepEnd)) (stands : stepEnd ≠ .goesOn) : q = p := by
  cases flow with
  | next =>
      cases h
      exact absurd rfl stands
  | goto line | gosub line =>
      simp only [follow] at h
      split at h <;> cases h
      · exact absurd rfl stands
      · rfl
  | «return» =>
      simp only [follow] at h
      split at h <;> cases h
      · exact absurd rfl stands
      · rfl
  | «end» =>
      cases h
      rfl

/-- A step that does not go on leaves the program on its statement, and its calls pending. -/
theorem step_eq_of_not_goesOn (h : p.step program line = (q, stepEnd)) (stands : stepEnd ≠ .goesOn) :
    q.pc = p.pc ∧ q.calls = p.calls := by
  unfold step at h
  split at h
  · cases h
    exact absurd rfl stands
  · dsimp only at h
    split at h
    · rw [follow_eq_of_not_goesOn h stands]
      exact ⟨rfl, rfl⟩
    · cases h
      exact ⟨rfl, rfl⟩

end Process

namespace Host

open Debugger

variable {h v y : Host} {line : SourceLine} {o : RunOutcome}

theorem enters_stays (tests : h.debugger.TestsOutside) (enters : h.Enters line v) :
    h.machine.Stays v.machine ∧ v.debugger.TestsOutside := by
  cases enters with
  | inside => exact ⟨Machine.stays_refl _, tests⟩
  | visited before =>
      rw [visit_of_first before.first]
      have hlooks := looks_onLine h.debugger (.number line.number)
      exact ⟨looks_stays tests hlooks, looks_testsOutside tests hlooks⟩

theorem finish_stays (h : Host) : h.machine.Stays h.finish.machine :=
  ⟨congrArg Process.pc h.finish_process, congrArg Process.calls h.finish_process⟩

theorem faults_stays {number : Nat} {f : Fault} {r : Host × RunOutcome}
    (hfaults : h.Faults number f r) : h.machine.Stays r.1.machine := by
  cases hfaults with
  | fails => exact h.finish_stays
  | trapped => exact ⟨rfl, rfl⟩

/-- A statement that does not go on leaves the program on it. -/
theorem executes_stays {r : Host × Option RunOutcome} (hexecutes : v.Executes line r)
    (stands : r.2 ≠ none) : v.machine.Stays r.1.machine := by
  have hstep : ∀ {p : Process} {stepEnd : StepEnd}, v.process.step v.program line = (p, stepEnd) →
      stepEnd ≠ .goesOn → v.machine.Stays (v.withProcess p).machine := by
    intro p stepEnd step stays
    obtain ⟨hpc, hcalls⟩ := Process.step_eq_of_not_goesOn step stays
    exact ⟨hpc, hcalls⟩
  cases hexecutes with
  | goesOn => exact absurd rfl stands
  | ends p step => exact (hstep step nofun).trans (finish_stays _)
  | faults p f step r result => exact (hstep step nofun).trans (faults_stays result)

/-- A tick that comes to an outcome does not move the program: it stops before a line, or stands on
the statement that ends it or has failed. -/
theorem stays_of_outcome (tests : h.debugger.TestsOutside) (tick : h.tick = (y, some o)) :
    h.machine.Stays y.machine := by
  have hticks := ticks_tick tests.keepsPlace
  generalize hr : h.tick = r at hticks
  rw [hr] at tick
  cases hticks with
  | past isOver =>
      cases tick
      exact h.finish_stays
  | stops line before request asked =>
      cases tick
      rw [visit_of_first before.first]
      have hstays := looks_stays tests (looks_onLine h.debugger (.number line.number))
      exact ⟨hstays.pc, hstays.calls⟩
  | runs line v enters =>
      have hexecutes := executes_execute v line
      rw [tick] at hexecutes
      exact (enters_stays tests enters).1.trans (executes_stays hexecutes nofun)

/-! ## Histories -/

/-- The host of a program, with a test of conditions that does not move it. -/
structure Loaded (program : Program) (h : Host) : Prop where
  program : h.program = program
  tests : h.debugger.TestsOutside

variable {program : Program} {x : Host}

theorem Loaded.finish (hl : Loaded program h) : Loaded program h.finish := by
  rw [finish_eq]
  exact ⟨hl.program, hl.tests⟩

theorem Loaded.enters (hl : Loaded program h) (enters : h.Enters line v) : Loaded program v :=
  ⟨(enters_program enters).trans hl.program, (enters_stays hl.tests enters).2⟩

theorem Loaded.moved (hl : Loaded program h) (p : Process) : Loaded program (h.withProcess p) :=
  ⟨hl.program, hl.tests⟩

theorem Loaded.executes {r : Host × Option RunOutcome} (hl : Loaded program v)
    (hexecutes : v.Executes line r) : Loaded program r.1 := by
  cases hexecutes with
  | goesOn p => exact hl.moved p
  | ends p => exact (hl.moved p).finish
  | faults p f step r result =>
      cases result with
      | fails => exact (hl.moved p).finish
      | trapped => exact ⟨hl.program, hl.tests⟩

theorem Loaded.tick (hl : Loaded program h) : Loaded program h.tick.1 := by
  have hticks := ticks_tick hl.tests.keepsPlace
  generalize h.tick = r at hticks
  cases hticks with
  | past isOver => exact hl.finish
  | stops line before request asked =>
      rw [visit_of_first before.first]
      have htests := looks_testsOutside hl.tests (looks_onLine h.debugger (.number line.number))
      exact ⟨hl.program, htests⟩
  | runs line v enters => exact (hl.enters enters).executes (executes_execute v line)

/-- An operation from outside keeps a host loaded, and its program where it stands. -/
theorem Loaded.operate (hl : Loaded program h) (op : Operation Machine) (outside : op.IsOutside) :
    Loaded program (h.withDebugger (op.apply h.debugger)) :=
  ⟨hl.program, (stays_apply hl.tests op outside).2⟩

/-- A start takes the program back to its first line, with no calls pending. -/
theorem Loaded.start (hl : Loaded program h) (stopOnEntry : Bool) :
    Loaded program (h.start stopOnEntry) ∧
      Process.initial.pc = (h.start stopOnEntry).process.pc ∧
      Process.initial.calls = (h.start stopOnEntry).process.calls := by
  have hfresh : Loaded program (h.start false) ∧ (h.start false).process = Process.initial := by
    rw [start_false]
    exact ⟨⟨hl.program, hl.tests⟩, rfl⟩
  obtain ⟨hloaded, hinitial⟩ := hfresh
  cases stopOnEntry with
  | false => exact ⟨hloaded, congrArg Process.pc hinitial.symm, congrArg Process.calls hinitial.symm⟩
  | true =>
      obtain ⟨hpc, hcalls⟩ := (stays_apply hloaded.tests (.step .intoCalls) trivial).1
      refine ⟨hloaded.operate (.step .intoCalls) trivial, ?_, ?_⟩
      · exact (congrArg Process.pc hinitial.symm).trans hpc.symm
      · exact (congrArg Process.calls hinitial.symm).trans hcalls.symm

theorem loaded_ofProgram (program : Program) : Loaded program (ofProgram program) := by
  refine ⟨rfl, fun test htest => ?_⟩
  cases htest
  exact isOutside_evaluatorTest

/-- A property of loaded hosts holds in every history if a program that is taken back to its first
line has it, and operations from outside and ticks keep it. -/
theorem history_keeps {P : Host → Prop} (hload : P (ofProgram program))
    (hstart : ∀ {g : Host} b, Loaded program g → P g → P (g.start b))
    (hoperate : ∀ {g : Host} (op : Operation Machine), op.IsOutside → Loaded program g → P g →
      P (g.withDebugger (op.apply g.debugger)))
    (htick : ∀ {g : Host}, Loaded program g → P g → P g.tick.1)
    (history : HostHistory program h) : Loaded program h ∧ P h := by
  induction history with
  | load => exact ⟨loaded_ofProgram program, hload⟩
  | start _ b ih => exact ⟨(ih.1.start b).1, hstart b ih.1 ih.2⟩
  | operate _ op outside ih => exact ⟨ih.1.operate op outside, hoperate op outside ih.1 ih.2⟩
  | run _ result ih =>
      exact run_of_tick (P := fun g => Loaded program g ∧ P g)
        (fun hg => ⟨hg.1.tick, htick hg.1 hg.2⟩) ih result

theorem history_program (history : HostHistory program h) : h.program = program :=
  (history_keeps (P := fun _ => True) trivial (fun _ _ _ => trivial) (fun _ _ _ _ => trivial)
    (fun _ _ => trivial) history).1.program

/-! ## Histories of the debugger -/

/-- What has become of a debugger by a history of its own. -/
def Performs (d d' : Debugger Machine) : Prop := ∃ ops, d' = d.perform ops

theorem performs_refl (d : Debugger Machine) : Performs d d := ⟨[], rfl⟩

theorem performs_apply (d : Debugger Machine) (op : Operation Machine) : Performs d (op.apply d) :=
  ⟨[op], rfl⟩

theorem Performs.trans {d d' d'' : Debugger Machine} (h : Performs d d') (h' : Performs d' d'') :
    Performs d d'' := by
  obtain ⟨ops, rfl⟩ := h
  obtain ⟨ops', rfl⟩ := h'
  exact ⟨ops ++ ops', perform_append.symm⟩

theorem performs_withMachine (h : Host) (m : Machine) :
    Performs h.debugger (h.withMachine m).debugger := performs_apply _ (.act fun _ => m)

theorem performs_finish (h : Host) : Performs h.debugger h.finish.debugger :=
  (performs_apply h.debugger (.act Debuggee.clearStop)).trans (performs_apply _ .reset)

theorem performs_handleFault (h : Host) (number : Nat) (f : Fault) :
    Performs h.debugger (h.handleFault number f).1.debugger := by
  unfold handleFault
  dsimp only
  have htaken : Performs h.debugger
      (if h.machine.errorTrap then h.debugger.handleError (f.atLine (.number number))
        else (false, h.debugger)).2 := by
    split
    · exact performs_apply h.debugger (.handleError _)
    · exact performs_refl _
  generalize (if h.machine.errorTrap then h.debugger.handleError (f.atLine (.number number))
    else (false, h.debugger)) = r at htaken ⊢
  split
  · exact htaken.trans (performs_withMachine (h.withDebugger r.2) _)
  · exact htaken.trans (performs_finish (h.withDebugger r.2))

theorem performs_execute (h : Host) (line : SourceLine) :
    Performs h.debugger (h.execute line).1.debugger := by
  unfold execute
  dsimp only
  have hmoved := performs_withMachine h
    { h.machine with process := (h.process.step h.program line).1 }
  split
  · exact hmoved
  · exact hmoved.trans (performs_finish _)
  · exact hmoved.trans (performs_handleFault _ _ _)

/-- A tick of a host is a history of its debugger. -/
theorem performs_tick (h : Host) : Performs h.debugger h.tick.1.debugger := by
  unfold Host.tick
  split
  · exact h.performs_finish
  · next line hline =>
      dsimp only
      have hvisit : Performs h.debugger (h.visit line.number).debugger := by
        unfold visit
        split
        · exact performs_apply _ (.onLine _)
        · exact performs_refl _
      have hstop : Performs h.debugger
          (if (h.visit line.number).process.pc.statement = 0 then (h.visit line.number).takeStop
            else (none, h.visit line.number)).2.debugger := by
        split
        · exact hvisit.trans (performs_withMachine _ _)
        · exact hvisit
      split
      · exact hstop
      · exact hstop.trans (performs_execute _ _)

/-- A start of a host is a history of its debugger. -/
theorem performs_start (h : Host) (stopOnEntry : Bool) :
    Performs h.debugger (h.start stopOnEntry).debugger := by
  have hfresh : Performs h.debugger (h.start false).debugger :=
    (performs_withMachine h _).trans (performs_apply _ .start)
  cases stopOnEntry with
  | false => exact hfresh
  | true => exact hfresh.trans (performs_apply _ (.step .intoCalls))

/-- What holds of a debugger in every history of its own holds in every history of a host. -/
theorem history_performs (history : HostHistory program h) :
    Performs (Debugger.attach Machine.initial) h.debugger := by
  have hload : Performs (Debugger.attach Machine.initial) (ofProgram program).debugger :=
    ⟨[.useEvaluatorConditions, .setSourceMap program.sourceMap], rfl⟩
  refine (history_keeps (P := fun g => Performs (Debugger.attach Machine.initial) g.debugger) hload
    ?_ ?_ ?_ history).2
  · exact fun b _ hg => hg.trans (performs_start _ b)
  · exact fun op _ _ hg => hg.trans (performs_apply _ op)
  · exact fun _ hg => hg.trans (performs_tick _)

end Host

end LineBasic
