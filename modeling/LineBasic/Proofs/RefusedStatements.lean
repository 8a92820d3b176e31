import LineBasic.Proofs.SnippetEvaluation

/-!
# Statements that the console refuses

The console refuses a statement that would take control of the paused program away from the
debugger.  It does so twice over: at once, if the first word of the text names such a command, and
behind the run of the text, if that has come to a jump.  A text is refused the second time around for
a jump at any depth of its `IF`s, and by then all that stands before the jump has run.

## Main results

* `exists_jump`: a run that moves control comes to a jump.
* `refused_statement_effects`: what a refused text leaves in the program.
-/

namespace LineBasic

variable {vars : Variables} {todo : List Stmt}

/-! ## Coming to a jump -/

/-- A run that moves control comes to a jump, and leaves what the statements before that leave. -/
theorem exists_jump {flow : Flow} (goes : (Stmt.runList vars todo).flow = .ok flow)
    (moves : flow ≠ .next) :
    ∃ done t rest, t.jump? = some flow ∧
      Reaches vars todo done (Stmt.runList vars done).vars (t :: rest) ∧
      (Stmt.runList vars todo).vars = (Stmt.runList vars done).vars ∧
      (Stmt.runList vars todo).printed = (Stmt.runList vars done).printed := by
  obtain ⟨done, vars', todo', hreaches, hhalts⟩ := settles_list vars todo
  obtain ⟨printed, hdone, hrest⟩ := hreaches.outcome
  rw [hrest] at goes
  cases todo' with
  | nil =>
      cases goes
      exact absurd rfl moves
  | cons t rest =>
      -- The run stands before a statement that halts, and only a jump moves control.
      have halts := hhalts t rest rfl
      rw [runList_of_halts halts] at goes hrest
      have hjump := jump_of_plain halts.plain goes moves
      rw [run_of_jump hjump] at hrest
      refine ⟨done, t, rest, hjump, ?_, ?_, ?_⟩
      · rw [hdone]
        exact hreaches
      · rw [hrest, hdone]
        rfl
      · rw [hrest, hdone]
        exact String.append_empty

/-! ## Refusals -/

namespace Snippet

/-- Statements are refused for moving control, and for nothing else. -/
theorem flow_of_refused {flow : Evaluated Flow} (refused : settled flow = .error .notAllowed) :
    ∃ f, flow = .ok f ∧ f ≠ .next := by
  unfold settled at refused
  split at refused
  · cases refused
  · next f hne => exact ⟨f, rfl, fun hnext => hne (by rw [hnext])⟩
  · cases refused

/-- The statements of a text behind its line number. -/
theorem execute_of_allowed {statement : String} {line : Line}
    (allowed : isBlockedInConsole statement = false)
    (compiled : Line.compile ("1 " ++ statement) = .ok line) (vars : Variables) :
    execute statement vars =
      ⟨(Stmt.runList vars line.statements).vars, (Stmt.runList vars line.statements).printed,
        settled (Stmt.runList vars line.statements).flow⟩ := by
  unfold execute
  rw [if_neg (by rw [allowed]; decide), compiled]

/--
A text that the console refuses for moving control has not run at all, if the console knows its first
word.  Else it has run up to a jump, which may stand in a branch of its `IF`s: the program keeps what
the statements before that jump have changed and printed.  It is as before exactly if they have done
nothing.  The pending calls and the place of the program stay in either case.
-/
theorem refused_statement_effects {statement : String} {m m' : Machine}
    (refused : Debugger.settle m (execute statement m.process.vars) = (.error .notAllowed, m')) :
    (m'.process.calls = m.process.calls ∧ m'.process.pc = m.process.pc) ∧
    (isBlockedInConsole statement = true ∧ m' = m ∨
      ∃ line done t rest, let o := Stmt.runList m.process.vars done
        Line.compile ("1 " ++ statement) = .ok line ∧
        Reaches m.process.vars line.statements done o.vars (t :: rest) ∧ t.jump?.isSome = true ∧
        m' = Debuggee.print (Debuggee.setVariables m o.vars) o.printed ∧
        (m' = m ↔ o.vars = m.process.vars ∧ o.printed = "")) := by
  have hresult : (execute statement m.process.vars).result = .error .notAllowed :=
    congrArg Prod.fst refused
  have hleft : (Debugger.settle m (execute statement m.process.vars)).2 = m' :=
    congrArg Prod.snd refused
  rw [← hleft]
  refine ⟨⟨rfl, rfl⟩, ?_⟩
  cases hblocked : isBlockedInConsole statement with
  | true =>
      refine .inl ⟨rfl, ?_⟩
      unfold execute
      rw [if_pos hblocked, settle_refused]
  | false =>
      refine .inr ?_
      cases hcompile : Line.compile ("1 " ++ statement) with
      | error err =>
          unfold execute at hresult
          rw [if_neg (by rw [hblocked]; decide), hcompile] at hresult
          cases hresult
      | ok line =>
          rw [execute_of_allowed hblocked hcompile] at hresult ⊢
          obtain ⟨flow, goes, moves⟩ := flow_of_refused hresult
          obtain ⟨done, t, rest, hjump, hreaches, hvars, hprinted⟩ := exists_jump goes moves
          rw [hvars, hprinted]
          exact ⟨line, done, t, rest, rfl, hreaches, by rw [hjump]; rfl, rfl, settle_eq_self_iff⟩

/-- A text that assigns, and then chooses to move control. -/
def assigningText : String := "x=1: if x then goto 10"

/-- The program that this text leaves. -/
def assigned : Machine :=
  Debuggee.setVariables Machine.initial ((∅ : Variables).insert "xR" (.number 1))

/-- The assignment stays behind the refusal. -/
theorem refused_statement_effects_assigning :
    Debugger.settle Machine.initial (execute assigningText Machine.initial.process.vars) =
        (.error .notAllowed, assigned) ∧
      assigned.process.calls = Machine.initial.process.calls ∧
      ∃ done t rest, Reaches ∅ [.assign ⟨"xR", .number⟩ (.number 1),
          .ifThen (.var ⟨"xR", .number⟩) (.statements [.goto 10])] done
          (Stmt.runList ∅ done).vars (t :: rest) ∧ t.jump?.isSome = true ∧
        ¬ ((Stmt.runList ∅ done).vars = ∅ ∧ (Stmt.runList ∅ done).printed = "") := by
  have hallowed : isBlockedInConsole assigningText = false := by decide
  have hcompile : Line.compile ("1 " ++ assigningText) = .ok ⟨some 1,
      [.assign ⟨"xR", .number⟩ (.number 1),
        .ifThen (.var ⟨"xR", .number⟩) (.statements [.goto 10])]⟩ := by
    with_unfolding_all rfl
  have hrun : Stmt.runList ∅ [.assign ⟨"xR", .number⟩ (.number 1),
      .ifThen (.var ⟨"xR", .number⟩) (.statements [.goto 10])] =
        ⟨(∅ : Variables).insert "xR" (.number 1), "", .ok (.goto 10)⟩ := by
    with_unfolding_all rfl
  have hexecute := execute_of_allowed hallowed hcompile ∅
  rw [hrun] at hexecute
  have refused : Debugger.settle Machine.initial
      (execute assigningText Machine.initial.process.vars) = (.error .notAllowed, assigned) := by
    rw [show Machine.initial.process.vars = ∅ from rfl, hexecute]
    rfl
  have hchanged : assigned ≠ Machine.initial := by
    intro same
    have hnone : assigned.process.vars.find? "xR" = none := by rw [same]; rfl
    cases hnone
  obtain ⟨⟨hcalls, -⟩, ⟨-, same⟩ | ⟨line, done, t, rest, hline, hreaches, hjump, -, hiff⟩⟩ :=
    refused_statement_effects refused
  · exact absurd same hchanged
  · cases hcompile.symm.trans hline
    exact ⟨refused, hcalls, done, t, rest, hreaches, hjump, fun nothing => hchanged (hiff.2 nothing)⟩

end Snippet

end LineBasic
