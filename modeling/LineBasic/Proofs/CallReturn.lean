import LineBasic.Proofs.Session
import LineBasic.Proofs.StatementOrder

/-!
# Calls and returns

A `GOSUB` leaves a call pending, and the `RETURN` that takes the call away goes on from the place
that the call names.  Everything in between works above that call: a step puts a call on top, or
takes the top one away, or leaves the calls alone, and no command touches them.  So the place is the
one that was noted at the `GOSUB`, however long the subroutine ran and however often it was stopped.

A place counts the statements of a line, and not those of the branches inside them.  A `GOSUB`
inside a branch is therefore returned to behind the whole `IF`, and what follows it in its branch is
not run.

## Main definitions

* `Process.CallStep`: what a step does to the pending calls.
* `Host.CallsFrom`: a tick that runs a `GOSUB`, at whatever depth of branches.
* `Inside`: what can happen to a host before that call is taken away.

## Main results

* `callStep_tick`: a tick does no more to the pending calls than a step.
* `calls_inside`: the call and those below it stay pending.
* `return_resumes`: the program goes on behind the statement of the line that the `GOSUB` is part
  of, which is behind the `GOSUB` if and only if nothing follows it in the branches around it.
-/

namespace LineBasic

open Debugger Host

variable {program : Program} {h v w x y z : Host} {line : SourceLine} {s t : Stmt}
  {vars : Variables} {i n : Nat}

/-! ## Pending calls in a step -/

namespace Process

variable {p q : Process}

/-- What a step from `p` to `q` does to the pending calls. -/
inductive CallStep (p q : Process) : Prop where
  | stays (same : q.calls = p.calls)
  | calls (call : Call) (pending : q.calls = call :: p.calls)
  | returns (call : Call) (pending : p.calls = call :: q.calls) (resumes : q.pc = call.resume)

theorem callStep_follow (program : Program) (number : Nat) (p : Process) (flow : Flow) :
    CallStep p (p.follow program number flow).1 := by
  cases flow with
  | next => exact .stays rfl
  | goto line =>
      simp only [follow]
      cases target program line with
      | ok pc => exact .stays rfl
      | error f => exact .stays rfl
  | gosub line =>
      simp only [follow]
      cases target program line with
      | ok pc => exact .calls _ rfl
      | error f => exact .stays rfl
  | «return» =>
      simp only [follow]
      cases hcalls : p.calls with
      | cons call calls => exact .returns call hcalls rfl
      | nil => exact .stays rfl
  | «end» => exact .stays rfl

theorem callStep_step (program : Program) (line : SourceLine) (p : Process) :
    CallStep p (p.step program line).1 := by
  unfold step
  split
  · exact .stays rfl
  · next s hs =>
      dsimp only
      cases (s.run p.vars).flow with
      | error f => exact .stays rfl
      | ok flow =>
          -- Variables and output have changed by now, and the calls have not.
          cases callStep_follow program line.number { p with
            vars := (s.run p.vars).vars, output := p.output ++ (s.run p.vars).printed } flow with
          | stays same => exact .stays same
          | calls call pending => exact .calls call pending
          | returns call pending resumes => exact .returns call pending resumes

/-- A `GOSUB` that finds its line leaves a call to the next statement of the line. -/
theorem calls_of_gosub (stmt : line.compiled.statements[p.pc.statement]? = some s)
    (flow : (s.run p.vars).flow = .ok (.gosub n)) (step : p.step program line = (q, .goesOn)) :
    q.calls = ⟨line.number, ⟨p.pc.line, p.pc.statement + 1⟩⟩ :: p.calls := by
  unfold Process.step at step
  rw [stmt] at step
  dsimp only at step
  rw [flow] at step
  simp only [follow] at step
  split at step
  · cases step
    rfl
  · cases step

end Process

/-- The only statement that calls by itself is `GOSUB`. -/
theorem eq_gosub_of_plain (plain : t.chosen vars = none)
    (flow : (t.run vars).flow = .ok (.gosub n)) : t = .gosub n := by
  have hjump := jump_of_plain plain flow (by nofun)
  cases t with
  | gosub m =>
      cases hjump
      rfl
  | goto | «return» | «end» | stop => cases hjump
  | assign | print | ifThen | ifThenElse | raise | clear | remark => cases hjump

/-! ## Pending calls in a tick -/

namespace Host

open Process

/-- A visit leaves the pending calls alone. -/
theorem visit_calls (hc : Coherent program h) (number : Nat) :
    (h.visit number).process.calls = h.process.calls := by
  unfold visit
  split
  · rcases looks_process (looks_onLine h.debugger (.number number)) with hsame | htested
    · exact congrArg Process.calls hsame
    · obtain ⟨vars, output, hevaluated⟩ := tested_evaluator hc.tests (.number number)
      show (h.debugger.onLine (.number number)).runtime.process.calls = h.process.calls
      rw [htested, hevaluated]
      rfl
  · rfl

theorem enters_calls (hc : Coherent program h) (enters : h.Enters line v) :
    v.process.calls = h.process.calls := by
  cases enters with
  | inside => rfl
  | visited => exact visit_calls hc line.number

theorem executes_callStep {r : Host × Option RunOutcome} (hexecutes : h.Executes line r) :
    CallStep h.process r.1.process := by
  have hcalls := callStep_step h.program line h.process
  cases hexecutes with
  | goesOn p step =>
      rw [step] at hcalls
      exact hcalls
  | ends p step =>
      rw [step] at hcalls
      simpa using hcalls
  | faults p f step r result =>
      rw [step] at hcalls
      cases result with
      | fails =>
          simpa using hcalls
      | trapped => exact hcalls

/-- A tick does no more to the pending calls than a step. -/
theorem callStep_tick (hc : Coherent program h) : CallStep h.process h.tick.1.process := by
  have hticks := ticks_tick hc.keepsPlace
  generalize h.tick = r at hticks
  cases hticks with
  | past isOver => exact .stays (by simp)
  | stops line before request asked => exact .stays (visit_calls hc line.number)
  | runs line v henters =>
      have hsame := enters_calls hc henters
      cases executes_callStep (executes_execute v line) with
      | stays same => exact .stays (same.trans hsame)
      | calls call pending => exact .calls call (hsame ▸ pending)
      | returns call pending resumes => exact .returns call (hsame ▸ pending) resumes

/-- A tick runs a `GOSUB`, which is the statement `s` of a line or inside it.  The program is about
to run that statement as `v`, and is in the subroutine as `y`. -/
structure CallsFrom (x v : Host) (line : SourceLine) (s : Stmt) (n : Nat) (y : Host) : Prop where
  enters : x.Enters line v
  stmt : line.compiled.statements[x.process.pc.statement]? = some s
  flow : (s.run v.process.vars).flow = .ok (.gosub n)
  tick : x.tick = (y, none)

/-- The call of a `GOSUB` leads back to the next statement of the line. -/
theorem CallsFrom.calls (hc : Coherent program x) (called : x.CallsFrom v line s n y) :
    y.process.calls =
      ⟨line.number, ⟨x.process.pc.line, x.process.pc.statement + 1⟩⟩ :: x.process.calls := by
  have hpc := enters_pc hc.keepsPlace called.enters
  have hexecutes := executes_execute v line
  rw [← tick_of_enters hc.keepsPlace called.enters, called.tick] at hexecutes
  cases hexecutes with
  | goesOn p step =>
      have hcalls := calls_of_gosub (hpc ▸ called.stmt) called.flow step
      rw [hpc, enters_calls hc called.enters] at hcalls
      exact hcalls

end Host

/-! ## Inside a call -/

/-- From `y` on more than `depth` calls have been pending up to `z`, whatever has run and whatever
has been commanded. -/
inductive Inside (depth : Nat) (y : Host) : Host → Prop where
  | called : Inside depth y y
  | command {z : Host} (inside : Inside depth y z) (c : Control) : Inside depth y (z.command c)
  | tick {z : Host} (inside : Inside depth y z) (deep : depth < z.tick.1.process.calls.length) :
      Inside depth y z.tick.1

/-- Inside a call, the call and those below it stay pending. -/
theorem calls_inside (hc : Coherent program y) (inside : Inside n y z)
    (depth : y.process.calls.length = n + 1) :
    Coherent program z ∧ ∃ above, z.process.calls = above ++ y.process.calls := by
  induction inside with
  | called => exact ⟨hc, [], rfl⟩
  | @command z _ c ih =>
      obtain ⟨hz, above, habove⟩ := ih
      have hkept := kept_apply z.debugger c
      exact ⟨hz.kept hkept, above, hkept.calls.trans habove⟩
  | @tick z _ deep ih =>
      obtain ⟨hz, above, habove⟩ := ih
      refine ⟨hz.tick, ?_⟩
      cases callStep_tick hz with
      | stays same => exact ⟨above, same.trans habove⟩
      | calls call pending => exact ⟨call :: above, pending.trans (congrArg _ habove)⟩
      | returns call pending =>
          rw [habove] at pending
          cases above with
          | nil =>
              -- The call itself would be gone.
              have hlength := congrArg List.length pending
              simp only [List.nil_append, List.length_cons] at hlength
              omega
          | cons top above =>
              obtain ⟨-, hrest⟩ := List.cons.inj pending
              exact ⟨above, hrest.symm⟩

/-- The tick that takes the call away goes on from the place that the call names. -/
theorem pc_of_returned {call : Call} {calls : List Call} (hc : Coherent program y)
    (pending : y.process.calls = call :: calls) (inside : Inside calls.length y z)
    (returned : z.tick.1.process.calls.length = calls.length) :
    z.tick.1.process.calls = calls ∧ z.tick.1.process.pc = call.resume := by
  have hdepth : y.process.calls.length = calls.length + 1 := congrArg List.length pending
  obtain ⟨hz, above, habove⟩ := calls_inside hc inside hdepth
  have hlength : z.process.calls.length = above.length + (calls.length + 1) := by
    rw [habove, List.length_append, hdepth]
  cases callStep_tick hz with
  | stays same =>
      have hsame := congrArg List.length same
      omega
  | calls top hpending =>
      have hmore := congrArg List.length hpending
      rw [List.length_cons] at hmore
      omega
  | returns top hpending resumes =>
      have hfewer := congrArg List.length hpending
      rw [List.length_cons] at hfewer
      obtain rfl : above = [] := List.length_eq_zero_iff.1 (by omega)
      have hsame : top :: z.tick.1.process.calls = call :: calls :=
        hpending.symm.trans (habove.trans pending)
      obtain ⟨rfl, hrest⟩ := List.cons.inj hsame
      exact ⟨hrest, resumes⟩

/--
A `GOSUB` is run in a session, at whatever depth of branches, and the `RETURN` that takes its call
away.  The calls are then those from before the `GOSUB`, and the program runs on from the next
statement of the line, without a look of the debugger.  At the `GOSUB`, the statements `rest` of the
branches around it were left to run before that one: what is left now is what was left then if and
only if there were none, as at the top of the line.
-/
theorem return_resumes {last : Option RunOutcome} (session : DebugSession program h last)
    (reach : h.after i = some x) (called : x.CallsFrom v line s n y)
    (inside : Inside x.process.calls.length y z) (back : z.tick = (w, none))
    (returned : w.process.calls.length = x.process.calls.length) :
    w.process.calls = x.process.calls ∧
      w.process.pc = ⟨x.process.pc.line, x.process.pc.statement + 1⟩ ∧
      w.tick = w.execute line ∧
      ∃ done vars rest, Reaches v.process.vars [s] done vars (.gosub n :: rest) ∧
        (s = .gosub n → rest = []) ∧
        (w.process.toRun program =
            rest ++ line.compiled.statements.drop (x.process.pc.statement + 1) ↔ rest = []) := by
  have hx := (session_coherent session).after reach
  have hy : Coherent program y := by
    have hnext := hx.tick
    rw [called.tick] at hnext
    exact hnext
  have hresumes := pc_of_returned hy (called.calls hx) inside
  have hz := (calls_inside hy inside (congrArg List.length (called.calls hx))).1
  have hw := hz.tick
  rw [back] at hresumes hw
  obtain ⟨hcalls, hpc⟩ := hresumes returned
  have hfound : program.get? w.process.pc.line = some line := by
    have hentered := enters_found hx.keepsPlace called.enters
    rw [enters_program called.enters, hx.program, enters_pc hx.keepsPlace called.enters]
      at hentered
    rw [hpc]
    exact hentered
  have hleft : w.process.toRun program =
      line.compiled.statements.drop (x.process.pc.statement + 1) := by
    rw [Process.toRun_of_found hfound, hpc]
  refine ⟨hcalls, hpc, ?_, ?_⟩
  · refine tick_of_enters hw.keepsPlace (.inside (hw.program ▸ hfound) ?_)
    rw [hpc]
    exact Nat.succ_ne_zero _
  · have hmoves : (s.run v.process.vars).flow ≠ .ok .next := by
      rw [called.flow]
      intro hnext
      cases hnext
    obtain ⟨done, vars, t, rest, hreaches, hhalts⟩ := exists_reaches hmoves
    obtain rfl : t = .gosub n :=
      eq_gosub_of_plain hhalts.plain ((flow_of_reaches hreaches hhalts).symm.trans called.flow)
    refine ⟨done, vars, rest, hreaches, ?_, ?_⟩
    · rintro rfl
      exact ((hreaches.eq_iff_plain hhalts).2 rfl).2
    · rw [hleft]
      exact List.self_eq_append_left

/-! ## A call in the middle of a branch -/

/-- A branch that calls a subroutine and has something to print after that. -/
def Stmt.branching : Stmt :=
  .ifThen (.number 1.0) (.statements [.gosub 30, .print [.expr (.text "b")]])

/-- The line of that statement. -/
def SourceLine.branching : SourceLine :=
  ⟨10, "10 if 1 then gosub 30: print \"b\"", 0, 32, ⟨some 10, [.branching]⟩⟩

/-- A program with that statement.  Its subroutine calls another one. -/
def Program.branching : Program :=
  ⟨⟨[(10, .branching),
    (20, ⟨20, "20 end", 33, 6, ⟨some 20, [.end]⟩⟩),
    (30, ⟨30, "30 gosub 40: return", 40, 19, ⟨some 30, [.gosub 40, .return]⟩⟩),
    (40, ⟨40, "40 return", 60, 9, ⟨some 40, [.return]⟩⟩)], by decide⟩⟩

/-- The program, started. -/
def Host.branching : Host := (Host.ofProgram .branching).start false

/-- The program in its subroutine, behind the inner call. -/
def Host.called : Host := branching.tick.1.tick.1.tick.1.command .pause

/-- Both calls return, and what the branch had left to print is left out. -/
theorem return_resumes_branching :
    (DebugSession .branching branching none ∧
      branching.CallsFrom (branching.visit 10) .branching .branching 30 branching.tick.1 ∧
      Inside 0 branching.tick.1 called ∧ called.tick = (called.tick.1, none) ∧
      called.tick.1.process.calls.length = 0) ∧
    called.tick.1.process.pc = ⟨0, 1⟩ ∧ called.tick.1.process.toRun .branching = [] ∧
      ∃ done vars rest, Reaches ∅ [.branching] done vars (.gosub 30 :: rest) ∧
        called.tick.1.process.toRun .branching ≠ rest := by
  have hsession : DebugSession .branching branching none := .start .load false
  have hcalled : branching.CallsFrom (branching.visit 10) .branching .branching 30
      branching.tick.1 :=
    ⟨.visited ⟨rfl, rfl⟩ rfl, rfl, rfl, rfl⟩
  have hinside : Inside 0 branching.tick.1 called :=
    .command (.tick (.tick .called (by decide)) (by decide)) .pause
  refine ⟨⟨hsession, hcalled, hinside, rfl, rfl⟩, ?_⟩
  obtain ⟨-, hpc, -, done, vars, rest, hreaches, -, hleft⟩ :=
    return_resumes hsession (show branching.after 0 = some branching from rfl) hcalled hinside
      (show called.tick = (called.tick.1, none) from rfl) rfl
  refine ⟨hpc, rfl, done, vars, rest, hreaches, ?_⟩
  have hprints : rest ≠ [] := by
    rintro rfl
    cases hreaches with
    | runs plain => cases plain
    | chooses chosen rest =>
        cases chosen
        cases rest with
        | runs _ next => cases next
        | chooses chosen => cases chosen
  exact fun hsame => hprints (hleft.1 (hsame.trans (List.append_nil rest).symm))

end LineBasic
