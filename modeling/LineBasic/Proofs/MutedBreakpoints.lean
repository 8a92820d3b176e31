import LineBasic.Host
import LineBasic.Proofs.Announcements

/-!
# Breakpoints that cannot hit

A breakpoint that is switched off, or whose condition does not hold whenever it is tested, should
be as good as none.  The check of a line spends marks, lets a step end and counts towards the next
wait, and it does so in the same way whether it finds no breakpoint, one that is switched off, or
one whose condition is false or fails.

To show this the same history is run twice, once with the breakpoints and once without any.  The
edits of breakpoints are left out of the second run, so that it never has one.  What an operation
does is then the same in both, by `Announces.bare` for those that read no breakpoints, and by
`onLine_of_unbroken` for the lines.

## Main definitions

* `Operation.edit`: what an operation does to the breakpoints of its own accord.
* `MutedAt`, `Muted`: no breakpoint on a line, or in a history, can hit.

## Main results

* `apply_of_muted`: one operation in both runs.
* `muted_breakpoints`: both runs agree, and hits are not counted.
-/

namespace LineBasic

variable {ρ : Type}

namespace Operation

/-- What an operation does to the breakpoints of its own accord.  Lines count hits beyond that. -/
def edit (s : BreakpointStore) : Operation ρ → BreakpointStore
  | addBreakpoint line condition => (s.add line condition).2
  | removeBreakpoint line => (s.remove line).2
  | toggleBreakpoint line => (s.toggle line).2
  | clearBreakpoints => s.clear
  | importBreakpoints entries => s.replaceAll entries
  | _ => s

/-- Whether an operation edits the breakpoints. -/
def isEdit : Operation ρ → Bool
  | addBreakpoint .. | removeBreakpoint _ | toggleBreakpoint _ | clearBreakpoints
  | importBreakpoints _ => true
  | _ => false

theorem edit_of_not_isEdit {op : Operation ρ} (h : op.isEdit = false) (s : BreakpointStore) :
    op.edit s = s := by
  cases op <;> first | rfl | cases h

end Operation

namespace Debugger

/-- The debugger without its breakpoints. -/
def bare (d : Debugger ρ) : Debugger ρ := { d with breakpoints := ∅ }

/-- What a function does besides its announcements, it does without breakpoints as well. -/
theorem Announces.bare {f : Debugger ρ → Debugger ρ} {d : Debugger ρ} (h : Announces f d) :
    f d.bare = (f d).bare := by
  obtain ⟨es, htells, -⟩ := h
  have hevents : (f d).events = d.events.tell es := by
    have hself := congrArg Debugger.events (htells d.events d.breakpoints)
    exact hself
  unfold Debugger.bare
  rw [hevents]
  exact htells d.events ∅

/--
No breakpoint can hit on a line: where the check of the line comes to a breakpoint that is switched
on, this has a condition, and the test of it leaves the runtime alone and answers no or fails.
-/
def MutedAt (d : Debugger ρ) (line : LineId) : Prop :=
  d.state ≠ .idle → d.throttledLine ≠ some line → d.isMarked line = false →
    ∀ bp, d.breakpointOn line = some bp → bp.enabled = true →
      ∃ condition test, bp.condition = some condition ∧ d.conditionTest = some test ∧
        (test condition d.runtime).1 ≠ .ok true ∧ (test condition d.runtime).2 = d.runtime

variable {d : Debugger ρ} {line : LineId}

/-- A test that does not say yes, and leaves the runtime alone, is a verdict of no. -/
theorem verdict_of_not_ok {condition : String} {test : ConditionTest ρ} {runtime : ρ}
    (answer : (test condition runtime).1 ≠ .ok true) (still : (test condition runtime).2 = runtime) :
    verdict (some test) (some condition) runtime = (false, runtime) := by
  show ((test condition runtime).1.toOption.getD false, (test condition runtime).2) = _
  rw [still]
  cases hresult : (test condition runtime).1 with
  | error e => rfl
  | ok holds =>
      cases holds with
      | false => rfl
      | true => exact absurd hresult answer

/-- Where no breakpoint can hit, the check leaves the runtime alone. -/
theorem MutedAt.unbroken (h : d.MutedAt line) (active : d.state ≠ .idle)
    (arrived : d.throttledLine ≠ some line) : d.Unbroken line d.runtime := by
  cases mark : d.isMarked line with
  | true => exact .marked mark
  | false =>
      have hcheck : d.hits line = false ∧ d.tested line = d.runtime := by
        rw [hits_eq, tested_eq]
        cases found : d.breakpointOn line with
        | none => exact ⟨rfl, rfl⟩
        | some bp =>
            dsimp only
            cases on : bp.enabled with
            | false => exact ⟨rfl, rfl⟩
            | true =>
                obtain ⟨condition, test, hcondition, htest, hanswer, hstill⟩ :=
                  h active arrived mark bp found on
                rw [hcondition, htest, verdict_of_not_ok hanswer hstill]
                exact ⟨rfl, rfl⟩
      obtain ⟨hmiss, htested⟩ := hcheck
      exact htested ▸ .missed mark hmiss

/-- Without breakpoints none can hit. -/
theorem mutedAt_bare (d : Debugger ρ) (line : LineId) : d.bare.MutedAt line := by
  intro _ _ _ bp found
  unfold breakpointOn at found
  cases hline : line.number? <;> rw [hline] at found <;> cases found

variable [Debuggee ρ] {op : Operation ρ} {ops : List (Operation ρ)}

/-- A line on which no breakpoint can hit is as one without breakpoints. -/
theorem onLine_of_muted (muted : d.MutedAt line) :
    d.bare.onLine line = (d.onLine line).bare ∧ (d.onLine line).breakpoints = d.breakpoints := by
  rcases Decidable.em (d.state = .idle) with asleep | active
  · rw [onLine_of_idle asleep, onLine_of_idle (by exact asleep)]
    exact ⟨rfl, rfl⟩
  rcases Decidable.em (d.throttledLine = some line) with waited | arrived
  · rw [onLine_of_waited active waited, onLine_of_waited (by exact active) (by exact waited)]
    exact ⟨rfl, rfl⟩
  have hweigh := announces_weigh (d.weighed line d.runtime) (d.isMarked line)
  rw [onLine_of_unbroken active arrived (muted.unbroken active arrived),
    onLine_of_unbroken (by exact active) (by exact arrived)
      ((d.mutedAt_bare line).unbroken active arrived)]
  exact ⟨hweigh.bare, hweigh.breakpoints⟩

/-- An operation that edits no breakpoints, where none can hit, is as one without breakpoints. -/
theorem apply_of_muted (unedited : op.isEdit = false)
    (muted : ∀ line, op = .onLine line → d.MutedAt line) :
    op.apply d.bare = (op.apply d).bare ∧ (op.apply d).breakpoints = d.breakpoints := by
  have hannounced : ∀ {f : Debugger ρ → Debugger ρ}, Announces f d →
      f d.bare = (f d).bare ∧ (f d).breakpoints = d.breakpoints :=
    fun h => ⟨h.bare, h.breakpoints⟩
  cases op with
  | onLine line => exact onLine_of_muted (muted line rfl)
  | start => exact hannounced (announces_start d)
  | reset => exact hannounced (announces_reset d)
  | pause => exact hannounced (announces_pause d)
  | resume => exact hannounced (announces_resume d)
  | step mode => exact hannounced (announces_beginStep d mode)
  | handleError f => exact hannounced (announces_handleError d f)
  | eval | exec => exact hannounced (announces_atPause d _ _)
  | addBreakpoint | removeBreakpoint | toggleBreakpoint | clearBreakpoints | importBreakpoints =>
      cases unedited
  | detach | setBreakOnError | setSpeed | setConditionTest | setEvaluator
  | useEvaluatorConditions | setSourceMap | subscribe | unsubscribe | act => exact ⟨rfl, rfl⟩

theorem apply_of_isEdit (d : Debugger ρ) (edits : op.isEdit = true) :
    op.apply d = { d with breakpoints := op.edit d.breakpoints } := by
  cases op <;> first | rfl | cases edits

/-- Whether a fault pauses the program is no matter of breakpoints. -/
theorem handleError_bare (d : Debugger ρ) (f : Fault) :
    (d.bare.handleError f).1 = (d.handleError f).1 := by
  unfold handleError bare
  dsimp only
  split
  · split <;> rfl
  · rfl

/-! ## Histories -/

/-- No breakpoint can hit in a history. -/
def Muted (d : Debugger ρ) (ops : List (Operation ρ)) : Prop :=
  ∀ before line rest, ops = before ++ .onLine line :: rest → (d.perform before).MutedAt line

theorem muted_nil (d : Debugger ρ) : d.Muted [] := by
  intro before line rest h
  cases before <;> cases h

theorem muted_cons : d.Muted (op :: ops) ↔
    (∀ line, op = .onLine line → d.MutedAt line) ∧ (op.apply d).Muted ops := by
  constructor
  · intro h
    refine ⟨fun line hop => ?_, fun before line rest hops => ?_⟩
    · exact h [] line ops (by rw [hop]; rfl)
    · exact h (op :: before) line rest (by rw [hops]; rfl)
  · rintro ⟨hhead, htail⟩ before line rest hops
    cases before with
    | nil =>
        cases hops
        exact hhead line rfl
    | cons first before =>
        cases hops
        exact htail before line rest rfl

theorem Muted.of_prefix {ops' : List (Operation ρ)} (h : d.Muted ops) (hops : ops' <+: ops) :
    d.Muted ops' := by
  obtain ⟨rest, rfl⟩ := hops
  intro before line rest' hsplit
  refine h before line (rest' ++ rest) ?_
  rw [hsplit, List.append_assoc]
  rfl

/-- A history in which no breakpoint can hit, without its edits and without any breakpoints. -/
theorem perform_of_muted (muted : d.Muted ops) :
    d.bare.perform (ops.filter fun op => !op.isEdit) = (d.perform ops).bare ∧
      (d.perform ops).breakpoints = ops.foldl Operation.edit d.breakpoints := by
  induction ops generalizing d with
  | nil => exact ⟨rfl, rfl⟩
  | cons op ops ih =>
      obtain ⟨hhead, htail⟩ := muted_cons.1 muted
      obtain ⟨hbare, hkept⟩ := ih htail
      -- The run with breakpoints goes ahead; the bare one follows it, or stands still at an edit.
      rw [perform_cons, List.foldl_cons, List.filter_cons, ← hbare, hkept]
      cases edits : op.isEdit with
      | true =>
          rw [apply_of_isEdit d edits]
          exact ⟨rfl, rfl⟩
      | false =>
          obtain ⟨hsame, hstore⟩ := apply_of_muted edits hhead
          rw [Operation.edit_of_not_isEdit edits, hstore, ← hsame]
          exact ⟨rfl, rfl⟩

end Debugger

/--
No breakpoint of a debugger can hit in a history: whenever the check of a line comes to one that is
switched on, its condition is tested, and the test leaves the program alone and says no or fails.
Then the history without its edits of breakpoints, on the debugger without breakpoints, comes at
every moment to the same state, marks, events, stops and waits, and takes the same faults.  The
breakpoints are as the edits leave them, with no hit counted.
-/
theorem muted_breakpoints [Debuggee ρ] (d : Debugger ρ) (ops done : List (Operation ρ))
    (muted : d.Muted ops) (hdone : done <+: ops) :
    d.bare.perform (done.filter fun op => !op.isEdit) = (d.perform done).bare ∧
    (d.perform done).breakpoints = done.foldl Operation.edit d.breakpoints ∧
    ∀ f, ((d.bare.perform (done.filter fun op => !op.isEdit)).handleError f).1 =
      ((d.perform done).handleError f).1 := by
  obtain ⟨hbare, hstore⟩ := Debugger.perform_of_muted (muted.of_prefix hdone)
  refine ⟨hbare, hstore, fun f => ?_⟩
  rw [hbare]
  exact Debugger.handleError_bare _ f

/-! ## A step past two breakpoints -/

/-- A test that says no to every condition. -/
def refuse : ConditionTest Machine := fun _ machine => (.ok false, machine)

/-- One breakpoint has a condition that is refused, another is switched off.  The program comes to
the first, and a step brings it to the second. -/
def passingTwo : List (Operation Machine) :=
  [.setConditionTest (some refuse), .addBreakpoint 10 (some "a"), .toggleBreakpoint 20,
    .toggleBreakpoint 20, .start, .onLine (.number 10), .step .intoCalls, .onLine (.number 20)]

theorem muted_passingTwo : (Debugger.attach Machine.initial).Muted passingTwo := by
  simp only [passingTwo, Debugger.muted_cons, Debugger.muted_nil, reduceCtorEq, false_implies,
    implies_true, true_and, and_true, Operation.onLine.injEq, forall_eq']
  constructor
  · rintro _ _ _ bp found -
    obtain rfl : (⟨1, 10, true, some "a", 0⟩ : Breakpoint) = bp := Option.some.inj found
    exact ⟨"a", refuse, rfl, rfl, nofun, rfl⟩
  · rintro _ _ _ bp found on
    obtain rfl : (⟨2, 20, false, none, 0⟩ : Breakpoint) = bp := Option.some.inj found
    cases on

/-- With both breakpoints and without them the step pauses the program on its second line, and no
hit is counted. -/
theorem muted_breakpoints_passingTwo :
    ((Debugger.attach Machine.initial).Muted passingTwo ∧ passingTwo <+: passingTwo) ∧
    (((Debugger.attach Machine.initial).bare.perform
        [.setConditionTest (some refuse), .start, .onLine (.number 10), .step .intoCalls,
          .onLine (.number 20)]).state = .paused ∧
      ((Debugger.attach Machine.initial).perform passingTwo).breakpoints.toList =
        [⟨1, 10, true, some "a", 0⟩, ⟨2, 20, false, none, 0⟩]) := by
  obtain ⟨hbare, hstore, -⟩ := muted_breakpoints _ passingTwo passingTwo muted_passingTwo
    List.prefix_rfl
  refine ⟨⟨muted_passingTwo, List.prefix_rfl⟩, ?_, ?_⟩
  · exact congrArg Debugger.state hbare
  · rw [hstore]
    rfl

end LineBasic
