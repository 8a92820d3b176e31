import LineBasic.Proofs.BreakpointVisits
import LineBasic.Proofs.StatementOrder
import LineBasic.Proofs.TrappedFaults

/-!
# Going on from a fault

A fault that the debugger takes leaves the program on the statement that raised it, and the program
goes on from there once it is told to.  What has run on the line before that statement does not run
again.

A position counts the statements of a line, so the statement that the program stands on is one of
those.  A fault inside a branch is a fault of the whole `IF`: the test is made again, on variables
that may have been repaired since, and the branch that it chooses runs from its first statement.

## Main definitions

* `HaltsIn`: a statement moves control away or fails, by one at whatever depth of its branches.

## Main results

* `enters_of_goingOn`: on whatever statement a paused program stands, a command to go on lets it
  run.
* `fault_resumed`: behind a fault the program goes on with the statement of the line, and with just
  what was left to run at the fault if and only if that statement is no `IF` whose test came out.
-/

namespace LineBasic

open Debugger Host

variable {program : Program} {h h' v x : Host} {line : SourceLine} {s t : Stmt} {p q : Process}
  {f : Fault} {last : Option RunOutcome} {i : Nat}

/-! ## The statement that fails -/

/-- A step that fails runs a statement of the line, and that statement moves control away or
fails. -/
theorem Process.stmt_of_fails (step : p.step program line = (q, .fails f)) :
    ∃ s, line.compiled.statements[p.pc.statement]? = some s ∧
      (s.run p.vars).flow ≠ .ok .next := by
  unfold Process.step at step
  split at step
  · cases step
  · next s hs =>
      refine ⟨s, hs, fun hnext => ?_⟩
      dsimp only at step
      rw [hnext] at step
      cases step

/-- The statement `s` moves control away or fails by the statement `t`, which is `s` itself or inside
it.  By then `done` have run, and `rest` follow `t` in the branches around it. -/
structure HaltsIn (vars : Variables) (s : Stmt) (done : List Stmt) (vars' : Variables) (t : Stmt)
    (rest : List Stmt) : Prop where
  reaches : Reaches vars [s] done vars' (t :: rest)
  halts : t.Halts vars'

theorem exists_haltsIn {vars : Variables} (moves : (s.run vars).flow ≠ .ok .next) :
    ∃ done vars' t rest, HaltsIn vars s done vars' t rest := by
  obtain ⟨done, vars', t, rest, hreaches, hhalts⟩ := exists_reaches moves
  exact ⟨done, vars', t, rest, hreaches, hhalts⟩

/-! ## Going on -/

/-- On whatever statement a paused program stands, the commands to go on let it run. -/
theorem enters_of_goingOn (session : DebugSession program h last) (running : h.finished = false)
    (paused : h.debugger.state = .paused) (stopped : last ≠ none)
    (found : program.get? h.process.pc.line = some line) {c : Control} (goes : c.GoesOn) :
    (h.command c).process = h.process ∧
      ∃ u, (h.command c).Enters line u ∧ (h.command c).tick = u.execute line ∧
        u.process = h.process := by
  have hc := session_coherent session
  have hfound : h.program.get? h.process.pc.line = some line := hc.program ▸ found
  have hcurrent := currentLine_of_stopped session running stopped hfound
  obtain ⟨-, -, hprocess⟩ := passesOver_command goes paused hcurrent
  refine ⟨hprocess, ?_⟩
  by_cases hfirst : h.process.pc.statement = 0
  · exact tick_of_goingOn session running paused stopped ⟨found, hfirst⟩ goes
  · have hinside : (h.command c).Enters line (h.command c) := by
      refine .inside ?_ ?_
      · rw [hprocess]
        exact hfound
      · rw [hprocess]
        exact hfirst
    exact ⟨_, hinside, tick_of_enters (hc.kept (kept_apply _ c)).keepsPlace hinside, hprocess⟩

/-- A fault that the debugger takes leaves the program on the statement that has failed. -/
theorem process_of_trapped (step : v.process.step v.program line = (p, .fails f)) {id : LineId}
    {reason : StopReason} {delay : Nat}
    (trapped : v.execute line = (h', some (.stopped id reason delay))) :
    h'.process = p ∧ h'.finished = v.finished := by
  have hexecutes := executes_execute v line
  rw [trapped] at hexecutes
  generalize hr : (h', some (RunOutcome.stopped id reason delay)) = r at hexecutes
  cases hexecutes with
  | goesOn q hstep => cases hr
  | ends q hstep => cases hr
  | faults q g hstep r result =>
      cases hstep.symm.trans step
      cases result with
      | fails => cases hr
      | trapped =>
          cases hr
          exact ⟨rfl, rfl⟩

/--
A fault on a line is taken in a session, and after any commands at the pause, which may repair
variables, a command to go on.  The program then runs the statement of the line that it stands on,
before anything else, and behind it the statements that follow it on the line; those before it do
not run again.  The fault came from the statement `t` inside that one, once the statements `done` of
the branches around it had run.  So what runs now is what was left to run then, without a second
test and without `done`, if and only if the statement of the line was no `IF` whose test had come
out.
-/
theorem fault_resumed {r : Host} {id : LineId} {reason : StopReason} {delay : Nat}
    {cs : List Control} {c : Control} (session : DebugSession program h last)
    (running : h.finished = false) (reach : h.after i = some x) (enters : x.Enters line v)
    (step : v.process.step v.program line = (p, .fails f))
    (trapped : h.run (i + 1) = some (h', .stopped id reason delay))
    (paused : (h'.commands cs).debugger.state = .paused) (goes : c.GoesOn)
    (goneOn : (h'.commands cs).command c = r) :
    r.process.pc = x.process.pc ∧
      (∃ u, r.Enters line u ∧ r.tick = u.execute line ∧ u.process = r.process) ∧
      ∃ s done vars t rest,
        line.compiled.statements[x.process.pc.statement]? = some s ∧
        HaltsIn v.process.vars s done vars t rest ∧
        r.process.toRun program =
          s :: line.compiled.statements.drop (x.process.pc.statement + 1) ∧
        (r.process.toRun program =
            t :: rest ++ line.compiled.statements.drop (x.process.pc.statement + 1) ↔
          s.chosen v.process.vars = none) ∧
        (s.chosen v.process.vars = none → done = []) := by
  have hx := (session_coherent session).after reach
  have hexecuted : v.execute line = (h', some (.stopped id reason delay)) := by
    rw [run_of_unfinished running, runFor_add reach, runFor,
      tick_of_enters hx.keepsPlace enters] at trapped
    split at trapped
    · next g o hg =>
        cases trapped
        exact hg
    · cases trapped
  obtain ⟨hprocess, hfinished⟩ := process_of_trapped step hexecuted
  have hpc : h'.process.pc = x.process.pc := by
    rw [hprocess, Process.step_fails_pc step, enters_pc hx.keepsPlace enters]
  -- The commands at the pause do not move the program.
  have hpaused : DebugSession program (h'.commands cs) (some (.stopped id reason delay)) :=
    session_commands (.run session trapped) cs
  have hplace : (h'.commands cs).process.pc = x.process.pc := (commands_pc h' cs).trans hpc
  have hfound : program.get? x.process.pc.line = some line := by
    have hentered := enters_found hx.keepsPlace enters
    rwa [enters_program enters, hx.program, enters_pc hx.keepsPlace enters] at hentered
  have hgoing : (h'.commands cs).finished = false := by
    rw [commands_finished, hfinished, enters_finished enters, after_finished reach, running]
  obtain ⟨hsame, hruns⟩ := enters_of_goingOn hpaused hgoing paused (Option.some_ne_none _)
    (hplace ▸ hfound) goes
  rw [goneOn] at hsame hruns
  have hstands : r.process.pc = x.process.pc := hsame ▸ hplace
  obtain ⟨s, hstmt, hmoves⟩ := Process.stmt_of_fails step
  rw [enters_pc hx.keepsPlace enters] at hstmt
  obtain ⟨done, vars, t, rest, hhalts⟩ := exists_haltsIn hmoves
  have hleft : r.process.toRun program =
      s :: line.compiled.statements.drop (x.process.pc.statement + 1) := by
    rw [← hstands] at hfound hstmt ⊢
    exact Process.toRun_of_stmt hfound hstmt
  refine ⟨hstands, ?_, s, done, vars, t, rest, hstmt, hhalts, hleft, ?_, ?_⟩
  · obtain ⟨u, henters, htick, hu⟩ := hruns
    exact ⟨u, henters, htick, hu.trans hsame.symm⟩
  · rw [hleft, List.cons_append, List.cons.injEq, List.self_eq_append_left, eq_comm (a := s)]
    exact hhalts.reaches.eq_iff_plain hhalts.halts
  · exact fun plain => (hhalts.reaches.of_plain plain).1

/-! ## A fault in the middle of a branch -/

/-- The statement that prints the code of the first character of a text. -/
def Stmt.reading : Stmt := .print [.expr (.call .asc [.var ⟨"a$", .text⟩])]

/-- A branch that prints before it reads that text. -/
def Stmt.readingLate : Stmt :=
  .ifThen (.number 1.0) (.statements [.print [.expr (.text "b")], .reading])

/-- The line of that branch. -/
def SourceLine.reading : SourceLine :=
  ⟨10, "10 if 1 then print \"b\": print asc(a$)", 0, 37, ⟨some 10, [.readingLate]⟩⟩

/-- The program of that line. -/
def Program.reading : Program := ⟨⟨[(10, .reading)], List.pairwise_singleton _ _⟩⟩

/-- The program, started with error breakpoints on. -/
def Host.reading : Host := ((Host.ofProgram .reading).command (.setBreakOnError true)).start false

/-- The program behind the fault of the empty text, which is repaired and gone on from. -/
def Host.reread : Host := (reading.tick.1.commands [.exec "a$=\"x\""]).command .resume

/-- The text is read again, and what the branch has printed before is printed again. -/
theorem fault_resumed_reading :
    (DebugSession .reading reading none ∧ reading.finished = false ∧
      reading.Enters .reading (reading.visit 10) ∧
      ((reading.visit 10).process.step .reading .reading).2 = .fails (.ofKind .improperArgument) ∧
      reading.run 1 = some (reading.tick.1, .stopped (.number 10) .pause 0) ∧
      (reading.tick.1.commands [.exec "a$=\"x\""]).debugger.state = .paused) ∧
    reread.process.pc = ⟨0, 0⟩ ∧ (∃ u, reread.Enters .reading u ∧ reread.tick = u.execute .reading) ∧
      reread.process.toRun .reading = [.readingLate] ∧
      ∃ vars, HaltsIn ∅ .readingLate [.print [.expr (.text "b")]] vars .reading [] ∧
        reread.process.toRun .reading ≠ [.reading] := by
  have hsession : DebugSession .reading reading none :=
    .start (.command .load (.setBreakOnError true)) false
  have henters : reading.Enters .reading (reading.visit 10) := .visited ⟨rfl, rfl⟩ rfl
  have hstep : (reading.visit 10).process.step .reading .reading =
      (((reading.visit 10).process.step .reading .reading).1, .fails (.ofKind .improperArgument)) :=
    rfl
  have hrun : reading.run 1 = some (reading.tick.1, .stopped (.number 10) .pause 0) := rfl
  have hpaused : (reading.tick.1.commands [.exec "a$=\"x\""]).debugger.state = .paused := rfl
  refine ⟨⟨hsession, rfl, henters, congrArg Prod.snd hstep, hrun, hpaused⟩, ?_⟩
  obtain ⟨hpc, ⟨u, hu, htick, -⟩, s, done, vars, t, rest, hstmt, hhalts, hleft, hiff, -⟩ :=
    fault_resumed hsession rfl (show reading.after 0 = some reading from rfl) henters hstep hrun
      hpaused (.inl rfl) (show _ = reread from rfl)
  cases hstmt
  have hchosen : Stmt.readingLate.chosen (reading.visit 10).process.vars ≠ none := by
    intro hnone
    cases hnone
  have hplace : done = [.print [.expr (.text "b")]] ∧ t = .reading ∧ rest = [] := by
    cases hhalts.reaches with
    | here => exact absurd hhalts.halts.plain hchosen
    | runs plain => exact absurd plain hchosen
    | chooses chosen branch =>
        cases chosen
        cases branch with
        | here => exact absurd rfl hhalts.halts.moves
        | chooses chosen => cases chosen
        | runs _ _ behind =>
            cases behind with
            | here => exact ⟨rfl, rfl, rfl⟩
            | runs _ next => cases next
            | chooses chosen => cases chosen
  obtain ⟨rfl, rfl, rfl⟩ := hplace
  exact ⟨hpc, ⟨u, hu, htick⟩, hleft, vars, hhalts, fun hsame => hchosen (hiff.1 hsame)⟩

end LineBasic
