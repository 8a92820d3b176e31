import LineBasic.Proofs.Session
import Mathlib.Data.List.Forall2

/-!
# A debugger that only watches

Commands, breakpoints without conditions, steps and speeds decide when a program stops, and nothing
else.  As long as nobody evaluates snippets or writes variables, and faults are left to the program,
every run under the debugger is a piece of the run of the program on its own.  No statement is
skipped, run twice or changed, whatever stops there are and whatever is commanded at them.

The proof is a simulation.  A tick either stops, and then the process is what it was, or it is one
step of the program.  The text that was collected between runs is put back in front of the output,
so that the two processes are equal and not only alike.

## Main definitions

* `Quiet`, `Control.IsQuiet`: nothing writes to the program, and faults are left to it.
* `Move`, `Host.play`: runs, commands and collections of output in any order.
* `RunReport.Tells`: a run reports what the program on its own does.

## Main results

* `follows_tick`: a tick is a stop or a step of the program.
* `play_transparent`: a session reports what the program does, and reports something unless the
  program on its own does not end either.
-/

namespace LineBasic

/-! ## Quiet debuggers -/

/-- Faults are left to the program, and no breakpoint has a condition. -/
structure Quiet (d : Debugger Machine) : Prop where
  faults : d.breakOnError = false
  conditions : d.breakpoints.All fun bp => bp.condition = none

/-- The commands that keep a debugger quiet and do not touch the program. -/
def Control.IsQuiet : Control → Prop
  | setBreakOnError on => on = false
  | addBreakpoint _ condition => condition = none
  | importBreakpoints entries => ∀ e ∈ entries, e.condition = none
  | eval _ | exec _ | writeVariables _ | takeOutput => False
  | _ => True

namespace Debugger

variable {d d' : Debugger Machine} {line : LineId}

theorem Quiet.tested (hq : Quiet d) (line : LineId) : d.tested line = d.runtime :=
  tested_unconditional (fun n bp found _ => hq.conditions n bp found) line

theorem Quiet.congr (hq : Quiet d) (faults : d'.breakOnError = d.breakOnError)
    (stored : d'.breakpoints = d.breakpoints) : Quiet d' :=
  ⟨faults.trans hq.faults, stored ▸ hq.conditions⟩

theorem Quiet.keepsPlace (hq : Quiet d) : d.KeepsPlace := by
  intro line
  rw [Quiet.tested hq]

/-- A look leaves a quiet debugger quiet, and the process as it is. -/
theorem Quiet.looks (hq : Quiet d) (h : Looks d line d') :
    Quiet d' ∧ d'.runtime.process = d.runtime.process := by
  constructor
  · cases h with
    | broken active arrived mark hit bp found bus =>
        have hbp := breakpointOn_all hq.conditions found
        exact ⟨hq.faults, BreakpointStore.all_put hq.conditions hbp⟩
    | idle | reentry | stepped | resumed | halted | waits | runs =>
        exact ⟨hq.faults, hq.conditions⟩
  · rcases looks_process h with hsame | htested
    · exact hsame
    · rw [htested, Quiet.tested hq]

theorem Quiet.reset (hq : Quiet d) : Quiet d.reset ∧ d.reset.runtime = d.runtime :=
  ⟨Quiet.congr hq (by simp) (by simp), by simp⟩

/-- A quiet command leaves a quiet debugger quiet, and the process as it is. -/
theorem Quiet.apply (hq : Quiet d) {c : Control} (hc : c.IsQuiet) :
    Quiet (c.apply d) ∧ (c.apply d).runtime.process = d.runtime.process := by
  have hsame : Quiet d ∧ d.runtime.process = d.runtime.process := ⟨hq, rfl⟩
  cases c with
  | pause | resume | restart => exact ⟨Quiet.congr hq (by simp) (by simp), by simp⟩
  | step mode =>
      by_cases hidle : d.state = .idle
      · simpa [hidle] using hq
      · exact ⟨Quiet.congr hq (by simp [hidle]) (by simp [hidle]), by simp [hidle]⟩
  | reset =>
      obtain ⟨hreset, hruntime⟩ := Quiet.reset hq
      exact ⟨hreset, congrArg Machine.process hruntime⟩
  | setBreakOnError on => exact ⟨⟨hc, hq.conditions⟩, rfl⟩
  | addBreakpoint line condition =>
      exact ⟨⟨hq.faults, BreakpointStore.all_add hq.conditions hc⟩, rfl⟩
  | removeBreakpoint line =>
      exact ⟨⟨hq.faults, BreakpointStore.all_remove hq.conditions line⟩, rfl⟩
  | toggleBreakpoint line =>
      have htoggle := BreakpointStore.all_toggle hq.conditions line (fun _ h => h) rfl
      exact ⟨⟨hq.faults, htoggle⟩, rfl⟩
  | clearBreakpoints => exact ⟨⟨hq.faults, BreakpointStore.all_clear _⟩, rfl⟩
  | importBreakpoints entries =>
      have himport := BreakpointStore.all_replaceAll (P := fun bp => bp.condition = none)
        d.breakpoints fun e he _ => ⟨hc e he, hc e he⟩
      exact ⟨⟨hq.faults, himport⟩, rfl⟩
  | eval | exec | writeVariables | takeOutput => exact hc.elim
  | setSpeed | detach | subscribe | unsubscribe => exact ⟨⟨hq.faults, hq.conditions⟩, rfl⟩

end Debugger

/-! ## A tick against a step -/

open Debugger Host

variable {program : Program} {h x : Host}

/-- A tick of a host, whose process is `p`, against the program on its own. -/
inductive Follows (program : Program) (p : Process) : Host × Option RunOutcome → Prop where
  /-- The program stops and stays as it is. -/
  | stops {x : Host} (line : LineId) (reason : StopReason) (delay : Nat)
      (same : x.process = p) (running : x.finished = false) :
      Follows program p (x, some (.stopped line reason delay))
  | goesOn {x : Host} (step : p.advance program = (x.process, .goesOn))
      (running : x.finished = false) : Follows program p (x, none)
  | ends {x : Host} (step : p.advance program = (x.process, .ends)) (isOver : x.finished = true) :
      Follows program p (x, some .finished)
  | fails {x : Host} {line : SourceLine} {f : Fault}
      (found : program.get? p.pc.line = some line)
      (step : p.advance program = (x.process, .fails f)) (isOver : x.finished = true) :
      Follows program p (x, some (.failed (f.atLine (.number line.number))))

theorem finish_parts (hq : Quiet h.debugger) :
    Quiet h.finish.debugger ∧ h.finish.process = h.process ∧ h.finish.program = h.program := by
  have hclear : Quiet h.debugger.clearStop := ⟨hq.faults, hq.conditions⟩
  exact ⟨(Quiet.reset hclear).1, finish_process h, rfl⟩

theorem enters_parts {line : SourceLine} {v : Host} (hq : Quiet h.debugger)
    (henters : h.Enters line v) :
    Quiet v.debugger ∧ v.process = h.process ∧ v.program = h.program ∧ v.finished = h.finished ∧
      h.program.get? h.process.pc.line = some line := by
  cases henters with
  | inside found inside => exact ⟨hq, rfl, rfl, rfl, found⟩
  | visited before free =>
      obtain ⟨hquiet, hsame⟩ := Quiet.looks hq (looks_onLine h.debugger (.number line.number))
      rw [visit_of_first before.first]
      exact ⟨hquiet, hsame, rfl, rfl, before.found⟩

/-- With faults left to the program, a statement is one step of it. -/
theorem follows_execute {line : SourceLine} (hq : Quiet h.debugger)
    (running : h.finished = false) (found : h.program.get? h.process.pc.line = some line) :
    Follows h.program h.process (h.execute line) ∧ Quiet (h.execute line).1.debugger ∧
      (h.execute line).1.program = h.program := by
  have hadvance := Process.advance_of_found found
  have hexecutes := executes_execute h line
  generalize h.execute line = r at hexecutes
  cases hexecutes with
  | goesOn p step =>
      exact ⟨.goesOn (hadvance.trans step) running, ⟨hq.faults, hq.conditions⟩, rfl⟩
  | ends p step =>
      have hmoved : Quiet (h.withProcess p).debugger := ⟨hq.faults, hq.conditions⟩
      obtain ⟨hquiet, hprocess, hprogram⟩ := finish_parts hmoved
      refine ⟨.ends ?_ rfl, hquiet, hprogram⟩
      rw [hadvance, step, hprocess]
      rfl
  | faults p f step r result =>
      have hmoved : Quiet (h.withProcess p).debugger := ⟨hq.faults, hq.conditions⟩
      cases result with
      | trapped on =>
          rw [show (h.withProcess p).debugger.breakOnError = false from hq.faults] at on
          cases on
      | fails =>
          obtain ⟨hquiet, hprocess, hprogram⟩ := finish_parts hmoved
          refine ⟨.fails found ?_ rfl, hquiet, hprogram⟩
          rw [hadvance, step, hprocess]
          rfl

/-- A tick is a stop or a step of the program. -/
theorem follows_tick (hq : Quiet h.debugger) (running : h.finished = false) :
    Follows h.program h.process h.tick ∧ Quiet h.tick.1.debugger ∧
      h.tick.1.program = h.program := by
  have hticks := ticks_tick (Quiet.keepsPlace hq)
  generalize h.tick = r at hticks
  cases hticks with
  | past isOver =>
      obtain ⟨hquiet, hprocess, hprogram⟩ := finish_parts hq
      refine ⟨.ends ?_ rfl, hquiet, hprogram⟩
      rw [hprocess]
      exact Process.advance_of_past isOver
  | stops line before request asked =>
      obtain ⟨hquiet, hsame⟩ := Quiet.looks hq (looks_onLine h.debugger (.number line.number))
      rw [visit_of_first before.first]
      exact ⟨.stops _ _ _ hsame running, ⟨hquiet.faults, hquiet.conditions⟩, rfl⟩
  | runs line v henters =>
      obtain ⟨hquiet, hprocess, hprogram, hfinished, hfound⟩ := enters_parts hq henters
      rw [← hprocess, ← hprogram] at hfound
      have hresult := follows_execute hquiet (hfinished.trans running) hfound
      rw [hprogram, hprocess] at hresult
      exact hresult

/-! ## Runs against steps -/

/-- The host is where the program on its own is after `k` steps, once the text that was collected
so far is put back. -/
structure Mirrors (program : Program) (h : Host) (printed : String) (k : Nat) : Prop where
  loaded : h.program = program
  quiet : Quiet h.debugger
  alike : (Process.initial.after program k).1 = h.process.behind printed
  isOver : h.finished = true ↔ (Process.initial.after program k).2 ≠ .goesOn

/-- How the program on its own stands when the host reports an outcome: it goes on where the host
stops, it ends where the host has finished, and it fails with the fault of the host. -/
inductive Agrees (program : Program) : RunOutcome → Process × StepEnd → Prop where
  | stopped {p : Process} (line : LineId) (reason : StopReason) (delay : Nat) :
      Agrees program (.stopped line reason delay) (p, .goesOn)
  | finished {p : Process} : Agrees program .finished (p, .ends)
  | failed {p : Process} {line : SourceLine} {f : Fault}
      (found : program.get? p.pc.line = some line) :
      Agrees program (.failed (f.atLine (.number line.number))) (p, .fails f)

/-- A running host that mirrors the program stands where the program goes on. -/
theorem Mirrors.after_eq {printed : String} {k : Nat} (hm : Mirrors program h printed k)
    (running : h.finished = false) :
    Process.initial.after program k = (h.process.behind printed, .goesOn) := by
  refine Prod.ext hm.alike (Classical.not_not.1 fun hne => ?_)
  rw [hm.isOver.2 hne] at running
  cases running

theorem mirrors_of_after {printed : String} {k : Nat} {stepEnd : StepEnd}
    (loaded : h.program = program) (quiet : Quiet h.debugger)
    (hafter : Process.initial.after program k = (h.process.behind printed, stepEnd))
    (isOver : h.finished = true ↔ stepEnd ≠ .goesOn) : Mirrors program h printed k := by
  refine ⟨loaded, quiet, ?_, ?_⟩
  · rw [hafter]
  · rw [hafter]
    exact isOver

/-- Behind a tick the host mirrors the program again: a step further if there is no outcome, and in
agreement with the outcome if there is one. -/
theorem mirrors_tick {printed : String} {k : Nat} (hm : Mirrors program h printed k)
    (running : h.finished = false) :
    match h.tick with
    | (x, none) => Mirrors program x printed (k + 1) ∧ x.finished = false
    | (x, some o) => ∃ k', k ≤ k' ∧ Mirrors program x printed k' ∧
        Agrees program o (Process.initial.after program k') := by
  obtain ⟨hfollows, hquiet, hprogram⟩ := follows_tick hm.quiet running
  have hafter := hm.after_eq running
  have hnext := Process.after_succ hafter
  rw [Process.advance_behind] at hnext
  rw [hm.loaded] at hfollows hprogram
  generalize h.tick = r at hfollows hquiet hprogram
  cases hfollows with
  | @stops x line reason delay same running' =>
      rw [← same] at hafter
      refine ⟨k, Nat.le_refl k, mirrors_of_after hprogram hquiet hafter ?_, ?_⟩
      · simp only [running', Bool.false_eq_true, ne_eq, not_true_eq_false]
      · rw [hafter]
        exact .stopped line reason delay
  | @goesOn x step running' =>
      rw [step] at hnext
      refine ⟨mirrors_of_after hprogram hquiet hnext ?_, running'⟩
      simp only [running', Bool.false_eq_true, ne_eq, not_true_eq_false]
  | @ends x step isOver =>
      rw [step] at hnext
      refine ⟨k + 1, Nat.le_succ k, mirrors_of_after hprogram hquiet hnext ?_, ?_⟩
      · simp only [isOver, ne_eq, reduceCtorEq, not_false_eq_true]
      · rw [hnext]
        exact .finished
  | @fails x line f found step isOver =>
      have hpc : x.process.pc = h.process.pc := by
        rw [Process.advance_of_found found] at step
        exact Process.step_fails_pc step
      rw [step] at hnext
      refine ⟨k + 1, Nat.le_succ k, mirrors_of_after hprogram hquiet hnext ?_, ?_⟩
      · simp only [isOver, ne_eq, reduceCtorEq, not_false_eq_true]
      · rw [hnext]
        refine .failed ?_
        show program.get? x.process.pc.line = some line
        rw [hpc]
        exact found

/-- A run mirrors a piece of the program on its own.  A run that comes to no outcome has made as
many steps as it was given. -/
theorem mirrors_runFor {printed : String} {k : Nat} (hm : Mirrors program h printed k)
    (running : h.finished = false) (fuel : Nat) :
    match h.runFor fuel with
    | some (h', o) => ∃ k', k ≤ k' ∧ Mirrors program h' printed k' ∧
        Agrees program o (Process.initial.after program k')
    | none => (Process.initial.after program (k + fuel)).2 = .goesOn := by
  induction fuel generalizing h k with
  | zero =>
      show (Process.initial.after program k).2 = .goesOn
      rw [hm.after_eq running]
  | succ fuel ih =>
      have htick := mirrors_tick hm running
      rw [runFor]
      generalize h.tick = r at htick
      obtain ⟨x, none | o⟩ := r
      · obtain ⟨hx, hrunning⟩ := htick
        have hrest := ih hx hrunning
        rw [Nat.add_assoc, Nat.add_comm 1 fuel] at hrest
        dsimp only
        generalize x.runFor fuel = result at hrest
        cases result with
        | none => exact hrest
        | some result =>
            obtain ⟨k', hk, hrest⟩ := hrest
            exact ⟨k', Nat.le_of_succ_le hk, hrest⟩
      · exact htick

/-! ## Whole sessions -/

/-- What can happen between the start of a program and its next start. -/
inductive Move where
  | control (c : Control)
  /-- What was printed since the last time is collected. -/
  | takeOutput
  | run

/-- A move that neither writes to the program nor keeps its faults from it. -/
def Move.IsQuiet : Move → Prop
  | control c => c.IsQuiet
  | _ => True

/-- What a run leads to, with all that was printed since the start. -/
structure RunReport where
  outcome : RunOutcome
  /-- Whether the program had come to its end before. -/
  wasOver : Bool
  process : Process

/-- The reports of the runs among moves; none if a run takes more than `fuel` steps.  What was
collected so far is `printed`. -/
def Host.play (fuel : Nat) : Host → String → List Move → Option (List RunReport)
  | _, _, [] => some []
  | h, printed, .control c :: rest => (h.command c).play fuel printed rest
  | h, printed, .takeOutput :: rest => h.takeOutput.2.play fuel (printed ++ h.takeOutput.1) rest
  | h, printed, .run :: rest =>
      match h.run fuel with
      | none => none
      | some (h', o) =>
          (h'.play fuel printed rest).map fun reports =>
            ⟨o, h.finished, h'.process.behind printed⟩ :: reports

/-- A report tells how the program on its own stands after `k` steps.  A run behind the end of the
program reports once more that it has finished, whatever the end was. -/
structure RunReport.Tells (program : Program) (r : RunReport) (k : Nat) : Prop where
  process : r.process = (Process.initial.after program k).1
  agrees : r.wasOver = false → Agrees program r.outcome (Process.initial.after program k)
  repeats : r.wasOver = true →
    r.outcome = .finished ∧ (Process.initial.after program k).2 ≠ .goesOn

theorem Mirrors.command {printed : String} {k : Nat} (hm : Mirrors program h printed k)
    {c : Control} (hc : c.IsQuiet) : Mirrors program (h.command c) printed k := by
  obtain ⟨hquiet, hprocess⟩ := Quiet.apply hm.quiet hc
  refine ⟨hm.loaded, hquiet, ?_, hm.isOver⟩
  rw [hm.alike]
  exact congrArg (Process.behind printed) hprocess.symm

theorem Mirrors.takeOutput {printed : String} {k : Nat} (hm : Mirrors program h printed k) :
    Mirrors program h.takeOutput.2 (printed ++ h.takeOutput.1) k := by
  refine ⟨hm.loaded, ⟨hm.quiet.faults, hm.quiet.conditions⟩, ?_, hm.isOver⟩
  rw [hm.alike]
  show _ = { h.process with output := printed ++ h.process.output ++ "" }
  rw [String.append_empty]
  rfl

theorem mirrors_start (h : Host) (hq : Quiet h.debugger) (stopOnEntry : Bool) :
    Mirrors h.program (h.start stopOnEntry) "" 0 := by
  have hfresh : Mirrors h.program (h.start false) "" 0 := by
    rw [start_false]
    exact mirrors_of_after rfl ⟨hq.faults, hq.conditions⟩ rfl (by simp)
  cases stopOnEntry with
  | false => exact hfresh
  | true =>
      rw [start_true]
      exact hfresh.command trivial

/-- A program that has gone on for some steps was going on at each of them. -/
theorem goesOn_of_le {m n : Nat} {p : Process} (hle : m ≤ n)
    (hgoes : (p.after program n).2 = .goesOn) : (p.after program m).2 = .goesOn := by
  induction m generalizing n p with
  | zero => rfl
  | succ m ih =>
      obtain ⟨n, rfl⟩ := Nat.exists_eq_add_of_le' hle
      rw [← Nat.add_assoc, Process.after] at hgoes
      rw [Process.after]
      split at hgoes
      · next q hq => exact ih (Nat.le_add_left m n) hgoes
      · next ended hne => exact hgoes

/-- A run tells how the program on its own stands, and the host goes on mirroring it. -/
theorem mirrors_run {printed : String} {k : Nat} (hm : Mirrors program h printed k) (fuel : Nat) :
    match h.run fuel with
    | some (h', o) => ∃ n, k ≤ n ∧ Mirrors program h' printed n ∧
        RunReport.Tells program ⟨o, h.finished, h'.process.behind printed⟩ n
    | none => (Process.initial.after program fuel).2 = .goesOn := by
  unfold Host.run
  cases hfinished : h.finished with
  | true =>
      refine ⟨k, Nat.le_refl k, hm, hm.alike.symm, ?_, fun _ => ⟨rfl, hm.isOver.1 hfinished⟩⟩
      intro hrunning
      cases hrunning
  | false =>
      have hresult := mirrors_runFor hm hfinished fuel
      rw [if_neg Bool.false_ne_true]
      generalize h.runFor fuel = result at hresult
      cases result with
      | none => exact goesOn_of_le (Nat.le_add_left fuel k) hresult
      | some result =>
          obtain ⟨n, hle, hm', hagrees⟩ := hresult
          refine ⟨n, hle, hm', hm'.alike.symm, fun _ => hagrees, ?_⟩
          intro hover
          cases hover

/-- The reports of a session tell how the program on its own stands after more and more steps. -/
theorem play_mirrors (fuel : Nat) {moves : List Move} {printed : String} {k : Nat}
    (hm : Mirrors program h printed k) (hmoves : ∀ move ∈ moves, move.IsQuiet) :
    match h.play fuel printed moves with
    | some reports => ∃ counts : List Nat, (∀ count ∈ counts, k ≤ count) ∧
        counts.Pairwise (· ≤ ·) ∧ List.Forall₂ (fun r n => r.Tells program n) reports counts
    | none => (Process.initial.after program fuel).2 = .goesOn := by
  induction moves generalizing h printed k with
  | nil => exact ⟨[], fun _ h => absurd h List.not_mem_nil, .nil, .nil⟩
  | cons move rest ih =>
      have hrest : ∀ move ∈ rest, move.IsQuiet := fun m hin =>
        hmoves m (List.mem_cons_of_mem move hin)
      cases move with
      | control c => exact ih (hm.command (hmoves _ List.mem_cons_self)) hrest
      | takeOutput => exact ih hm.takeOutput hrest
      | run =>
          have hrun := mirrors_run hm fuel
          rw [play]
          generalize h.run fuel = result at hrun
          cases result with
          | none => exact hrun
          | some result =>
              obtain ⟨h', o⟩ := result
              obtain ⟨n, hle, hm', htells⟩ := hrun
              have hplay := ih hm' hrest
              dsimp only
              generalize h'.play fuel printed rest = reports at hplay
              cases reports with
              | none => exact hplay
              | some reports =>
                  obtain ⟨counts, hleast, hsorted, hall⟩ := hplay
                  refine ⟨n :: counts, ?_, List.pairwise_cons.2 ⟨hleast, hsorted⟩,
                    .cons htells hall⟩
                  intro count hcount
                  rcases List.mem_cons.1 hcount with rfl | hcount
                  · exact hle
                  · exact Nat.le_trans hle (hleast count hcount)

/--
Whatever a quiet session consists of, each of its runs leaves the program where it is on its own
after a number of steps that never decreases, with the same variables, pending calls and output.
A run that finds the program still going ends if the program ends, with the same fault if it fails;
a run behind the end only repeats that the program has finished.

A run comes to no outcome within `fuel` steps only if the program on its own goes on for as many.
-/
theorem play_transparent (h : Host) (hq : Quiet h.debugger) (stopOnEntry : Bool)
    {moves : List Move} (hmoves : ∀ move ∈ moves, move.IsQuiet) (fuel : Nat) :
    match (h.start stopOnEntry).play fuel "" moves with
    | some reports => ∃ counts : List Nat, counts.Pairwise (· ≤ ·) ∧
        List.Forall₂ (fun r k => r.Tells h.program k) reports counts
    | none => (Process.initial.after h.program fuel).2 = .goesOn := by
  have hplay := play_mirrors fuel (mirrors_start h hq stopOnEntry) hmoves
  generalize (h.start stopOnEntry).play fuel "" moves = result at hplay
  cases result with
  | none => exact hplay
  | some reports =>
      obtain ⟨counts, -, hsorted, hall⟩ := hplay
      exact ⟨counts, hsorted, hall⟩

/-- A program that fails at once. -/
def Program.failing : Program :=
  ⟨⟨[(10, ⟨10, "10 return", 0, 9, ⟨some 10, [.return]⟩⟩)], List.pairwise_singleton _ _⟩⟩

/-- A paused start, a step, a run to the fault, and a run behind it. -/
theorem play_transparent_failing :
    Quiet (Host.ofProgram .failing).debugger ∧
      (∀ move ∈ [Move.run, .control (.step .overCalls), .takeOutput, .run, .run], move.IsQuiet) ∧
      match ((Host.ofProgram .failing).start true).play 2 ""
        [.run, .control (.step .overCalls), .takeOutput, .run, .run] with
      | some reports => ∃ counts : List Nat, counts.Pairwise (· ≤ ·) ∧
          List.Forall₂ (fun r k => r.Tells .failing k) reports counts
      | none => (Process.initial.after .failing 2).2 = .goesOn := by
  have hq : Quiet (Host.ofProgram .failing).debugger :=
    ⟨rfl, fun line bp found => by cases found⟩
  have hmoves : ∀ move ∈ [Move.run, .control (.step .overCalls), .takeOutput, .run, .run],
      move.IsQuiet := by
    simp only [List.forall_mem_cons, Move.IsQuiet, Control.IsQuiet, List.not_mem_nil,
      IsEmpty.forall_iff, implies_true, and_self]
  exact ⟨hq, hmoves, play_transparent (Host.ofProgram .failing) hq true hmoves 2⟩

/-- A run behind a failure reports that the program has finished, which no stage of the program on
its own agrees with. -/
theorem finished_behind_failure :
    Program.parse "10 return" = .ok .failing ∧
      ∃ reports, ((Host.ofProgram .failing).start false).play 1 "" [.run, .run] = some reports ∧
        ¬ ∃ counts : List Nat, List.Forall₂
          (fun r k => Agrees .failing r.outcome (Process.initial.after .failing k))
          reports counts := by
  refine ⟨by with_unfolding_all rfl, _, rfl, ?_⟩
  rintro ⟨counts, hall⟩
  cases hall with
  | cons _ hrest =>
      cases hrest with
      | @cons _ k _ _ hagrees _ =>
          cases k with
          | zero =>
              rw [show Process.initial.after .failing 0 = (_, .goesOn) from rfl] at hagrees
              cases hagrees
          | succ k =>
              rw [show Process.initial.after .failing (k + 1) = (_, .fails _) from rfl] at hagrees
              cases hagrees

end LineBasic
