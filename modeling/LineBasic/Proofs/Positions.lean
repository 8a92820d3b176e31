import LineBasic.Proofs.HostHistory

/-!
# Positions inside a program

A position counts lines and statements, and nothing about it says that they exist.  Those of a
running program do: it stands on a statement of one of its lines, or behind the last statement of a
line, or behind the last line.  The place that a call returns to is such a position too, on the line
that the call names.  It may be behind the last statement of that line, when the `GOSUB` is the last
one there.

Positions change by steps, and a step computes the next one from the line that it runs or looks it
up among the lines.  A statement that fails has computed none: its jump finds no line, or its
`RETURN` no call.  So the program is still on it.

## Main definitions

* `Position.Within`, `Call.Within`, `Process.Within`: positions inside a program.

## Main results

* `step_within`: a step leads from positions inside a program to others.
* `callStack_lines`, `callStack_depths`: the call stack lists the pending calls.
* `host_positions`: all of this at every moment of a history.
-/

namespace LineBasic

variable {program : Program}

/-! ## Inside a program -/

/-- A position is on a line of a program, or behind the last.  On a line it is on a statement, or
behind the last. -/
structure Position.Within (program : Program) (pos : Position) : Prop where
  line : pos.line ≤ program.size
  statement : ∀ line, program.get? pos.line = some line →
    pos.statement ≤ line.compiled.statements.length

/-- A call returns to a position inside a program, on the line that it names. -/
structure Call.Within (program : Program) (call : Call) : Prop where
  resume : call.resume.Within program
  named : ∃ line, program.get? call.resume.line = some line ∧ line.number = call.line

/-- A running program and its pending calls are inside it. -/
structure Process.Within (program : Program) (p : Process) : Prop where
  pc : p.pc.Within program
  calls : ∀ call ∈ p.calls, call.Within program

theorem Program.lt_size_of_get? {i : Nat} {line : SourceLine}
    (found : program.get? i = some line) : i < program.size := by
  obtain ⟨hlt, -⟩ := List.getElem?_eq_some_iff.1 found
  unfold Program.lines Table.values at hlt
  rw [List.length_map] at hlt
  exact hlt

/-- The beginning of a line is inside, and so is the end of the program. -/
theorem Position.within_first {i : Nat} (hi : i ≤ program.size) :
    Position.Within program ⟨i, 0⟩ := ⟨hi, fun _ _ => Nat.zero_le _⟩

namespace Process

variable {p : Process} {line : SourceLine}

theorem within_initial (program : Program) : initial.Within program :=
  ⟨Position.within_first (Nat.zero_le _), fun _ hmem => absurd hmem List.not_mem_nil⟩

/-- Being inside a program is a matter of the position and the calls alone. -/
theorem Within.of_eq {q : Process} (h : p.Within program) (hpc : q.pc = p.pc)
    (hcalls : q.calls = p.calls) : q.Within program := by
  refine ⟨?_, ?_⟩
  · rw [hpc]
    exact h.pc
  · rw [hcalls]
    exact h.calls

/-! ## Steps -/

/-- A line that is found is one of the program. -/
theorem target_within {n : Nat} {pos : Position} (found : target program n = .ok pos) :
    pos.Within program := by
  unfold target at found
  split at found
  · next index hindex =>
      cases found
      obtain ⟨hlt, -⟩ := List.findIdx?_eq_some_iff_getElem.1 hindex
      exact Position.within_first (Nat.le_of_lt hlt)
  · cases found

/-- The place behind a statement is inside. -/
theorem within_behind {s : Stmt} (found : program.get? p.pc.line = some line)
    (stmt : line.compiled.statements[p.pc.statement]? = some s) :
    Position.Within program ⟨p.pc.line, p.pc.statement + 1⟩ := by
  refine ⟨Nat.le_of_lt (Program.lt_size_of_get? found), fun line' found' => ?_⟩
  obtain rfl : line = line' := Option.some.inj (found.symm.trans found')
  obtain ⟨hlt, -⟩ := List.getElem?_eq_some_iff.1 stmt
  exact hlt

theorem follow_within {s : Stmt} (h : p.Within program)
    (found : program.get? p.pc.line = some line)
    (stmt : line.compiled.statements[p.pc.statement]? = some s) (flow : Flow) :
    (p.follow program line.number flow).1.Within program := by
  cases flow with
  | next => exact ⟨within_behind found stmt, h.calls⟩
  | goto n =>
      simp only [follow]
      cases htarget : target program n with
      | ok pos => exact ⟨target_within htarget, h.calls⟩
      | error f => exact h
  | gosub n =>
      simp only [follow]
      cases htarget : target program n with
      | ok pos =>
          refine ⟨target_within htarget, fun call hmem => ?_⟩
          rcases List.mem_cons.1 hmem with rfl | hmem
          · exact ⟨within_behind found stmt, line, found, rfl⟩
          · exact h.calls call hmem
      | error f => exact h
  | «return» =>
      simp only [follow]
      split
      · next call calls hcalls =>
          have hcall := h.calls
          rw [hcalls] at hcall
          exact ⟨(hcall call List.mem_cons_self).resume,
            fun other hmem => hcall other (List.mem_cons_of_mem call hmem)⟩
      · exact h
  | «end» => exact h

/-- A step leads from positions inside a program to others. -/
theorem step_within (h : p.Within program) (found : program.get? p.pc.line = some line) :
    (p.step program line).1.Within program := by
  unfold step
  split
  · exact ⟨Position.within_first (Program.lt_size_of_get? found), h.calls⟩
  · next s stmt =>
      dsimp only
      have hran : Within program { p with
          vars := (s.run p.vars).vars, output := p.output ++ (s.run p.vars).printed } :=
        ⟨h.pc, h.calls⟩
      cases (s.run p.vars).flow with
      | ok flow => exact follow_within hran found stmt flow
      | error f => exact hran

end Process

/-! ## Ticks -/

namespace Host

open Debugger

variable {h x : Host} {line : SourceLine} {n : Nat}

/-- A host whose program stays where it is stays inside. -/
theorem within_of_stays {m m' : Machine} (stays : m.Stays m') (h : m.process.Within program) :
    m'.process.Within program := h.of_eq stays.pc stays.calls

/-- A tick leads from positions inside a program to others. -/
theorem within_tick (hl : Loaded program h) (hw : h.process.Within program) :
    h.tick.1.process.Within program := by
  obtain ⟨⟨y, result⟩, hy⟩ : ∃ r, h.tick = r := ⟨_, rfl⟩
  cases result with
  | some o =>
      rw [hy]
      exact within_of_stays (stays_of_outcome hl.tests hy) hw
  | none =>
      have hticks := ticks_tick hl.tests.keepsPlace
      rw [hy] at hticks ⊢
      show y.process.Within program
      generalize hr : (y, (none : Option RunOutcome)) = r at hticks
      cases hticks with
      | past | stops => cases hr
      | runs line v enters =>
          have hexecutes := executes_execute v line
          rw [← hr] at hexecutes
          cases hexecutes with
          | goesOn p step =>
              -- The look at the line has left the program where it is, and the step moves it.
              have hv := hl.enters enters
              have hinside : v.process.Within program :=
                within_of_stays (enters_stays hl.tests enters).1 hw
              have hfound := enters_found hl.tests.keepsPlace enters
              have hstep := Process.step_within hinside (hv.program ▸ hfound)
              rw [← hv.program, step] at hstep
              exact hv.program ▸ hstep

theorem within_history (history : HostHistory program h) :
    Loaded program h ∧ h.process.Within program := by
  refine history_keeps (P := fun g => g.process.Within program) (Process.within_initial program)
    ?_ ?_ within_tick history
  · intro g b hl _
    obtain ⟨-, hpc, hcalls⟩ := hl.start b
    exact (Process.within_initial program).of_eq hpc.symm hcalls.symm
  · intro g op outside hl hw
    exact within_of_stays (stays_apply hl.tests op outside).1 hw

end Host

/-! ## The call stack -/

theorem callStack_lines (current : LineId) (calls : List LineId) :
    (callStack current calls).map StackFrame.line = current :: calls := by
  induction calls generalizing current with
  | nil => rfl
  | cons caller rest ih => exact congrArg (current :: ·) (ih caller)

/-- Depths count down to the outermost frame. -/
theorem callStack_depths (current : LineId) (calls : List LineId) :
    (callStack current calls).map StackFrame.depth = (List.range (calls.length + 1)).reverse := by
  induction calls generalizing current with
  | nil => rfl
  | cons caller rest ih =>
      rw [List.range_succ, List.reverse_append]
      exact congrArg ((rest.length + 1) :: ·) (ih caller)

/--
At any moment of a history, also in the middle of a run, the program stands inside itself, and every
pending call returns to a place inside it, on the line that the call names.  A tick that comes to an
outcome moves neither the program nor its calls.  In particular a statement that fails comes to one,
and the program is still on it.  The call stack shows the current line, and then the lines of the
pending calls, the innermost first, with their depths counted down.
-/
theorem host_positions {h x : Host} {n : Nat} (history : HostHistory program h)
    (reach : h.after n = some x) :
    (x.process.pc.Within program ∧ ∀ call ∈ x.process.calls, call.Within program) ∧
    (∀ y o, x.tick = (y, some o) →
      y.process.pc = x.process.pc ∧ y.process.calls = x.process.calls) ∧
    (∀ line v p f, x.Enters line v → v.process.step program line = (p, .fails f) →
      ∃ y o, x.tick = (y, some o) ∧
        y.process.pc = x.process.pc ∧ y.process.calls = x.process.calls) ∧
    x.debugger.stack.length = x.process.calls.length + 1 ∧
    x.debugger.stack.map StackFrame.line =
      x.debugger.currentLine :: x.process.calls.map (fun call => .number call.line) ∧
    x.debugger.stack.map StackFrame.depth = (List.range (x.process.calls.length + 1)).reverse := by
  obtain ⟨hl, hw⟩ := Host.within_history history
  obtain ⟨hloaded, hwithin⟩ : Host.Loaded program x ∧ x.process.Within program :=
    Host.after_of_tick (P := fun g => Host.Loaded program g ∧ g.process.Within program)
      (fun hg => ⟨hg.1.tick, Host.within_tick hg.1 hg.2⟩) ⟨hl, hw⟩ reach
  have hstays : ∀ y o, x.tick = (y, some o) →
      y.process.pc = x.process.pc ∧ y.process.calls = x.process.calls := by
    intro y o tick
    have hsame := Host.stays_of_outcome hloaded.tests tick
    exact ⟨hsame.pc, hsame.calls⟩
  have hlines := callStack_lines x.debugger.currentLine
    (x.process.calls.map fun call => .number call.line)
  have hdepths := callStack_depths x.debugger.currentLine
    (x.process.calls.map fun call => .number call.line)
  rw [List.length_map] at hdepths
  refine ⟨⟨hwithin.pc, hwithin.calls⟩, hstays, ?_, ?_, hlines, hdepths⟩
  · intro line v p f enters step
    have htick := Host.tick_of_enters hloaded.tests.keepsPlace enters
    have hfails := Host.execute_of_fails ((hloaded.enters enters).program.symm ▸ step)
    exact ⟨_, _, htick.trans hfails, hstays _ _ (htick.trans hfails)⟩
  · have hlength := congrArg List.length hlines
    rw [List.length_map, List.length_cons, List.length_map] at hlength
    exact hlength

/-! ## Two calls and a jump to nowhere -/

/-- The second subroutine jumps to a line that does not exist. -/
def Program.straying : Program :=
  ⟨⟨[(10, ⟨10, "10 gosub 20: end", 0, 16, ⟨some 10, [.gosub 20, .end]⟩⟩),
    (20, ⟨20, "20 gosub 30: return", 17, 19, ⟨some 20, [.gosub 30, .return]⟩⟩),
    (30, ⟨30, "30 goto 40", 37, 10, ⟨some 30, [.goto 40]⟩⟩)], by decide⟩⟩

/-- The program before its jump. -/
def Host.straying : Host := ((Host.ofProgram .straying).start false).tick.1.tick.1

/-- The jump fails, and the program stays on it with both calls pending. -/
theorem host_positions_straying :
    (HostHistory .straying ((Host.ofProgram .straying).start false) ∧
      ((Host.ofProgram .straying).start false).after 2 = some .straying) ∧
    ∃ y o, Host.straying.tick = (y, some o) ∧ y.process.pc = ⟨2, 0⟩ ∧
      y.process.calls = [⟨20, ⟨1, 1⟩⟩, ⟨10, ⟨0, 1⟩⟩] := by
  have hhistory : HostHistory .straying ((Host.ofProgram .straying).start false) :=
    HostHistory.load.start false
  have hreach : ((Host.ofProgram .straying).start false).after 2 = some .straying := rfl
  obtain ⟨-, -, hfault, -⟩ := host_positions hhistory hreach
  obtain ⟨y, o, htick, hpc, hcalls⟩ := hfault
    ⟨30, "30 goto 40", 37, 10, ⟨some 30, [.goto 40]⟩⟩ (Host.straying.visit 30) _ _
    (.visited ⟨rfl, rfl⟩ rfl) rfl
  exact ⟨⟨hhistory, hreach⟩, y, o, htick, hpc, hcalls⟩

end LineBasic
