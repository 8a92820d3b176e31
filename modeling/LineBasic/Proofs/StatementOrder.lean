import LineBasic.Proofs.TypeSoundness
import LineBasic.Process

/-!
# The order of statements on a line

A statement is run as a whole, and an `IF` runs the statements of a branch within it.  From outside
only the outcome can be seen.  A place inside a branch is a matter of what is still to run there,
so this module runs a list of statements one by one: the first one runs and drops out, or it is an
`IF`, and the statements of the branch that its test chooses take its place.

What is left when the run comes to a statement is then that statement, what follows it in its own
list, and what follows the lists around it.

## Main definitions

* `Stmt.chosen`: the statements that an `IF` puts in its place.
* `Reaches`: what is left to run once some statements have run.
* `Stmt.Halts`: the statements behind this one do not run.
* `Stmt.jump?`: where a statement that does nothing else moves control.
* `Process.toRun`: what is left of the line on which a program stands.

## Main results

* `Reaches.outcome`: what has run, and what is left, have the outcome of the whole.
* `exists_reaches`: a run gets to its end or to a statement that halts it.
* `Reaches.sizeOf_lt`: behind the test of an `IF` everything left of it is smaller than it.
-/

namespace LineBasic

variable {vars vars' vars'' : Variables} {s t : Stmt} {body todo todo' todo'' rest : List Stmt}
  {done done' : List Stmt}

/-! ## One by one -/

/-- The statements that an `IF` puts in its place, once its test has come out.  No other statement
has such, and no `IF` whose test fails. -/
def Stmt.chosen (vars : Variables) : Stmt → Option (List Stmt)
  | .ifThen test yes =>
      match testHolds vars test with
      | .ok true => some yes.body
      | .ok false => some []
      | .error _ => none
  | .ifThenElse test yes no =>
      match testHolds vars test with
      | .ok true => some yes.body
      | .ok false => some no.body
      | .error _ => none
  | _ => none

/-- From the statements `todo` a run gets to `todo'`, once the statements `done` have run to their
end, in this order. -/
inductive Reaches : Variables → List Stmt → List Stmt → Variables → List Stmt → Prop where
  | here {vars : Variables} {todo : List Stmt} : Reaches vars todo [] vars todo
  | runs {vars vars' : Variables} {s : Stmt} {todo done todo' : List Stmt}
      (plain : s.chosen vars = none) (next : (s.run vars).flow = .ok .next)
      (rest : Reaches (s.run vars).vars todo done vars' todo') :
      Reaches vars (s :: todo) (s :: done) vars' todo'
  | chooses {vars vars' : Variables} {s : Stmt} {body todo done todo' : List Stmt}
      (chosen : s.chosen vars = some body) (rest : Reaches vars (body ++ todo) done vars' todo') :
      Reaches vars (s :: todo) done vars' todo'

/-- A statement moves control away or fails, and it does so by itself: an `IF` by its test alone. -/
structure Stmt.Halts (vars : Variables) (s : Stmt) : Prop where
  plain : s.chosen vars = none
  moves : (s.run vars).flow ≠ .ok .next

theorem Reaches.trans (first : Reaches vars todo done vars' todo')
    (second : Reaches vars' todo' done' vars'' todo'') :
    Reaches vars todo (done ++ done') vars'' todo'' := by
  induction first with
  | here => exact second
  | runs plain next _ ih => exact .runs plain next (ih second)
  | chooses chosen _ ih => exact .chooses chosen (ih second)

/-- What stands behind a list has no part in how it runs. -/
theorem Reaches.append (reaches : Reaches vars todo done vars' todo') (tail : List Stmt) :
    Reaches vars (todo ++ tail) done vars' (todo' ++ tail) := by
  induction reaches with
  | here => exact .here
  | runs plain next _ ih => exact .runs plain next ih
  | chooses chosen _ ih =>
      rw [List.append_assoc] at ih
      exact .chooses chosen ih

/-- A statement that halts by itself leaves no way to go on. -/
theorem Reaches.of_plain (plain : s.chosen vars = none)
    (reaches : Reaches vars [s] done vars' (t :: rest)) : done = [] ∧ t = s ∧ rest = [] := by
  cases reaches with
  | here => exact ⟨rfl, rfl, rfl⟩
  | runs _ _ rest => cases rest
  | chooses chosen => cases plain.symm.trans chosen

/-! ## Against the run as a whole -/

namespace Outcome

/-- The outcome behind a text that was printed before. -/
def behind (printed : String) (o : Outcome) : Outcome := ⟨o.vars, printed ++ o.printed, o.flow⟩

section

variable (printed : String) (o : Outcome)

@[simp] theorem behind_vars : (o.behind printed).vars = o.vars := rfl

@[simp] theorem behind_printed : (o.behind printed).printed = printed ++ o.printed := rfl

@[simp] theorem behind_flow : (o.behind printed).flow = o.flow := rfl

end

@[simp] theorem behind_empty (o : Outcome) : o.behind "" = o := by
  unfold behind
  rw [String.empty_append]

@[simp] theorem behind_behind (first second : String) (o : Outcome) :
    (o.behind second).behind first = o.behind (first ++ second) := by
  unfold behind
  rw [String.append_assoc]

@[simp] theorem andThen_of_next {o : Outcome} (next : o.flow = .ok .next) (k : Variables → Outcome) :
    o.andThen k = (k o.vars).behind o.printed := by
  unfold andThen
  rw [next]
  rfl

@[simp] theorem andThen_of_ne {o : Outcome} (moves : o.flow ≠ .ok .next) (k : Variables → Outcome) :
    o.andThen k = o := by
  unfold andThen
  split
  · next hnext => exact absurd hnext moves
  · rfl

/-- Of three in a row, it does not matter which two are taken together. -/
theorem andThen_assoc (o : Outcome) (k k' : Variables → Outcome) :
    (o.andThen k).andThen k' = o.andThen fun vars => (k vars).andThen k' := by
  by_cases hnext : o.flow = .ok .next
  · by_cases hk : (k o.vars).flow = .ok .next
    · simp [hnext, hk]
    · have hbehind : ((k o.vars).behind o.printed).flow ≠ .ok .next := hk
      rw [andThen_of_next hnext, andThen_of_next hnext, andThen_of_ne hbehind, andThen_of_ne hk]
  · simp [hnext]

end Outcome

/-- A list behind another runs if the first one runs to its end. -/
theorem runList_append (vars : Variables) (body rest : List Stmt) :
    Stmt.runList vars (body ++ rest) =
      (Stmt.runList vars body).andThen fun vars' => Stmt.runList vars' rest := by
  induction body generalizing vars with
  | nil => exact (Outcome.behind_empty _).symm
  | cons s body ih =>
      rw [List.cons_append, Stmt.runList, Stmt.runList, Outcome.andThen_assoc]
      simp only [ih]

@[simp] theorem runList_single (vars : Variables) (s : Stmt) : Stmt.runList vars [s] = s.run vars := by
  rw [Stmt.runList]
  by_cases hnext : (s.run vars).flow = .ok .next
  · rw [Outcome.andThen_of_next hnext]
    show (⟨(s.run vars).vars, (s.run vars).printed ++ "", .ok .next⟩ : Outcome) = s.run vars
    rw [String.append_empty, ← hnext]
  · simp [hnext]

/-- An `IF` runs as the statements that it puts in its place. -/
theorem run_of_chosen (chosen : s.chosen vars = some body) :
    s.run vars = Stmt.runList vars body := by
  cases s with
  | ifThen test yes =>
      rw [Stmt.chosen] at chosen
      rw [Stmt.run]
      cases htest : testHolds vars test with
      | error f =>
          rw [htest] at chosen
          cases chosen
      | ok taken =>
          rw [htest] at chosen
          cases taken with
          | true =>
              cases chosen
              exact run_branch yes
          | false =>
              cases chosen
              rw [Stmt.runList]
  | ifThenElse test yes no =>
      rw [Stmt.chosen] at chosen
      rw [Stmt.run]
      cases htest : testHolds vars test with
      | error f =>
          rw [htest] at chosen
          cases chosen
      | ok taken =>
          rw [htest] at chosen
          cases taken with
          | true =>
              cases chosen
              exact run_branch yes
          | false =>
              cases chosen
              exact run_branch no
  | assign | print | goto | gosub | «return» | «end» | stop | raise | clear | remark => cases chosen

/-- The statements that have run leave the variables and the text from which the run goes on. -/
theorem Reaches.outcome (reaches : Reaches vars todo done vars' todo') :
    ∃ printed, Stmt.runList vars done = ⟨vars', printed, .ok .next⟩ ∧
      Stmt.runList vars todo = (Stmt.runList vars' todo').behind printed := by
  induction reaches with
  | here => exact ⟨"", rfl, (Outcome.behind_empty _).symm⟩
  | @runs vars vars' s todo done todo' plain next _ ih =>
      obtain ⟨printed, hdone, hrest⟩ := ih
      refine ⟨(s.run vars).printed ++ printed, ?_, ?_⟩
      · rw [Stmt.runList, Outcome.andThen_of_next next, hdone]
        rfl
      · rw [Stmt.runList, Outcome.andThen_of_next next, hrest, Outcome.behind_behind]
  | @chooses vars vars' s body todo done todo' chosen _ ih =>
      obtain ⟨printed, hdone, hrest⟩ := ih
      refine ⟨printed, hdone, ?_⟩
      rw [Stmt.runList, run_of_chosen chosen, ← runList_append]
      exact hrest

/-- What is left to run has the outcome of the whole, behind what was printed on the way. -/
theorem Reaches.runList (reaches : Reaches vars todo done vars' todo') :
    ∃ printed, Stmt.runList vars todo = (Stmt.runList vars' todo').behind printed := by
  obtain ⟨printed, -, hrest⟩ := reaches.outcome
  exact ⟨printed, hrest⟩

/-- A statement that halts ends the run of its list. -/
theorem runList_of_halts (halts : t.Halts vars) : Stmt.runList vars (t :: rest) = t.run vars := by
  rw [Stmt.runList]
  exact Outcome.andThen_of_ne halts.moves _

/-- A run that gets to a statement that halts it moves control where that statement does. -/
theorem flow_of_reaches (reaches : Reaches vars [s] done vars' (t :: rest))
    (halts : t.Halts vars') : (s.run vars).flow = (t.run vars').flow := by
  obtain ⟨printed, hrun⟩ := reaches.runList
  rw [runList_single, runList_of_halts halts] at hrun
  rw [hrun]
  rfl

/-! ## Jumps -/

/-- Where a statement that does nothing but move control moves it. -/
def Stmt.jump? : Stmt → Option Flow
  | .goto n => some (.goto n)
  | .gosub n => some (.gosub n)
  | .return => some .return
  | .end => some .end
  | .stop => some .end
  | _ => none

/-- A jump leaves the variables as they are and prints nothing. -/
theorem run_of_jump {flow : Flow} (jump : t.jump? = some flow) (vars : Variables) :
    t.run vars = .quiet vars flow := by
  cases t with
  | goto | gosub | «return» | «end» | stop =>
      cases jump
      rw [Stmt.run]
  | assign | print | ifThen | ifThenElse | raise | clear | remark => cases jump

/-- What moves control by itself is a jump. -/
theorem jump_of_plain {flow : Flow} (plain : t.chosen vars = none)
    (goes : (t.run vars).flow = .ok flow) (moves : flow ≠ .next) : t.jump? = some flow := by
  cases t with
  | goto | gosub | «return» | «end» | stop =>
      rw [Stmt.run] at goes
      cases goes
      rfl
  | ifThen test yes | ifThenElse test yes no =>
      rw [Stmt.chosen] at plain
      rw [Stmt.run] at goes
      split at plain
      · cases plain
      · cases plain
      · next f hf =>
          rw [hf] at goes
          cases goes
  | assign | print =>
      rw [Stmt.run] at goes
      split at goes
      · cases goes
        exact absurd rfl moves
      · cases goes
  | raise =>
      rw [Stmt.run] at goes
      split at goes <;> cases goes
  | clear | remark =>
      rw [Stmt.run] at goes
      cases goes
      exact absurd rfl moves

/-! ## How far a run gets -/

/-- A run gets to its end, or to a statement that halts it. -/
def Settles (vars : Variables) (todo : List Stmt) : Prop :=
  ∃ done vars' todo', Reaches vars todo done vars' todo' ∧
    ∀ t rest, todo' = t :: rest → t.Halts vars'

theorem settles_of_plain (plain : s.chosen vars = none) : Settles vars [s] := by
  by_cases hnext : (s.run vars).flow = .ok .next
  · refine ⟨[s], _, [], .runs plain hnext .here, ?_⟩
    intro t rest hnil
    cases hnil
  · refine ⟨[], vars, [s], .here, ?_⟩
    intro t rest hsame
    cases hsame
    exact ⟨plain, hnext⟩

theorem settles_of_chosen (chosen : s.chosen vars = some body) (settles : Settles vars body) :
    Settles vars [s] := by
  obtain ⟨done, vars', todo', hreaches, hhalts⟩ := settles
  refine ⟨done, vars', todo', .chooses chosen ?_, hhalts⟩
  rw [List.append_nil]
  exact hreaches

theorem settles_nil (vars : Variables) : Settles vars [] := by
  refine ⟨[], vars, [], .here, ?_⟩
  intro t rest hnil
  cases hnil

/-- A list settles if its first statement does, and the others do wherever they begin. -/
theorem settles_cons (first : Settles vars [s]) (others : ∀ vars, Settles vars todo) :
    Settles vars (s :: todo) := by
  obtain ⟨done, vars', todo', hreaches, hhalts⟩ := first
  have hall := hreaches.append todo
  cases todo' with
  | nil =>
      obtain ⟨done', vars'', todo'', hrest, hends⟩ := others vars'
      exact ⟨_, vars'', todo'', hall.trans hrest, hends⟩
  | cons t rest =>
      refine ⟨done, vars', t :: (rest ++ todo), hall, ?_⟩
      intro t' rest' hsame
      cases hsame
      exact hhalts t rest rfl

mutual

theorem settles_stmt (vars : Variables) (s : Stmt) : Settles vars [s] := by
  cases hchosen : s.chosen vars with
  | none => exact settles_of_plain hchosen
  | some body =>
      refine settles_of_chosen hchosen ?_
      cases s with
      | ifThen test yes =>
          rw [Stmt.chosen] at hchosen
          split at hchosen
          · cases hchosen
            exact settles_branch vars yes
          · cases hchosen
            exact settles_nil vars
          · cases hchosen
      | ifThenElse test yes no =>
          rw [Stmt.chosen] at hchosen
          split at hchosen
          · cases hchosen
            exact settles_branch vars yes
          · cases hchosen
            exact settles_branch vars no
          · cases hchosen
      | assign | print | goto | gosub | «return» | «end» | stop | raise | clear | remark =>
          cases hchosen

theorem settles_branch (vars : Variables) (b : Branch) : Settles vars b.body := by
  cases b with
  | line n => exact settles_of_plain rfl
  | statements body => exact settles_list vars body

theorem settles_list (vars : Variables) (todo : List Stmt) : Settles vars todo := by
  cases todo with
  | nil => exact settles_nil vars
  | cons s rest => exact settles_cons (settles_stmt vars s) fun vars' => settles_list vars' rest

end

/-- A statement behind which no other one runs comes to a statement that halts it. -/
theorem exists_reaches (moves : (s.run vars).flow ≠ .ok .next) :
    ∃ done vars' t rest, Reaches vars [s] done vars' (t :: rest) ∧ t.Halts vars' := by
  obtain ⟨done, vars', todo', hreaches, hhalts⟩ := settles_stmt vars s
  cases todo' with
  | nil =>
      obtain ⟨printed, hrun⟩ := hreaches.runList
      rw [runList_single] at hrun
      refine absurd ?_ moves
      rw [hrun]
      rfl
  | cons t rest => exact ⟨done, vars', t, rest, hreaches, hhalts t rest rfl⟩

/-! ## Parts of an `IF` -/

/-- The statements that an `IF` chooses are smaller than it. -/
theorem sizeOf_lt_of_chosen (chosen : s.chosen vars = some body) (mem : t ∈ body) :
    sizeOf t < sizeOf s := by
  have hbody : ∀ b : Branch, t ∈ b.body → sizeOf t ≤ sizeOf b := by
    intro b ht
    cases b with
    | line n =>
        cases List.mem_singleton.1 ht
        exact Nat.le_refl _
    | statements body =>
        have hlt : sizeOf t < sizeOf body := List.sizeOf_lt_of_mem ht
        rw [Branch.statements.sizeOf_spec]
        omega
  cases s with
  | ifThen test yes =>
      rw [Stmt.chosen] at chosen
      rw [Stmt.ifThen.sizeOf_spec]
      split at chosen
      · cases chosen
        have hyes := hbody yes mem
        omega
      · cases chosen
        cases mem
      · cases chosen
  | ifThenElse test yes no =>
      rw [Stmt.chosen] at chosen
      rw [Stmt.ifThenElse.sizeOf_spec]
      split at chosen
      · cases chosen
        have hyes := hbody yes mem
        omega
      · cases chosen
        have hno := hbody no mem
        omega
      · cases chosen
  | assign | print | goto | gosub | «return» | «end» | stop | raise | clear | remark => cases chosen

/-- Whatever is left of statements below a size is below it. -/
theorem Reaches.sizeOf_lt {bound : Nat} (reaches : Reaches vars todo done vars' todo')
    (below : ∀ t ∈ todo, sizeOf t < bound) : ∀ t ∈ todo', sizeOf t < bound := by
  induction reaches with
  | here => exact below
  | runs _ _ _ ih => exact ih fun t ht => below t (List.mem_cons_of_mem _ ht)
  | @chooses vars vars' s body todo done todo' chosen _ ih =>
      refine ih fun t ht => ?_
      rcases List.mem_append.1 ht with hbody | hrest
      · exact Nat.lt_trans (sizeOf_lt_of_chosen chosen hbody) (below s List.mem_cons_self)
      · exact below t (List.mem_cons_of_mem _ hrest)

/-- A run halts on the statement that it began with only if that is no `IF` whose test has come
out. -/
theorem Reaches.eq_iff_plain (reaches : Reaches vars [s] done vars' (t :: rest))
    (halts : t.Halts vars') : t = s ∧ rest = [] ↔ s.chosen vars = none := by
  refine ⟨?_, fun plain => (reaches.of_plain plain).2⟩
  rintro ⟨rfl, rfl⟩
  cases reaches with
  | here => exact halts.plain
  | runs plain => exact plain
  | chooses chosen rest =>
      rw [List.append_nil] at rest
      have hlt := rest.sizeOf_lt (fun t' ht => sizeOf_lt_of_chosen chosen ht) t List.mem_cons_self
      exact absurd hlt (Nat.lt_irrefl _)

/-! ## What is left of a line -/

namespace Process

/-- What is left to run of the line on which a program stands, first statement first. -/
def toRun (program : Program) (p : Process) : List Stmt :=
  match program.get? p.pc.line with
  | some line => line.compiled.statements.drop p.pc.statement
  | none => []

variable {program : Program} {p : Process} {line : SourceLine}

theorem toRun_of_found (found : program.get? p.pc.line = some line) :
    p.toRun program = line.compiled.statements.drop p.pc.statement := by
  unfold toRun
  rw [found]

/-- On a statement, that statement comes first. -/
theorem toRun_of_stmt (found : program.get? p.pc.line = some line)
    (stmt : line.compiled.statements[p.pc.statement]? = some s) :
    p.toRun program = s :: line.compiled.statements.drop (p.pc.statement + 1) := by
  obtain ⟨hlt, hget⟩ := List.getElem?_eq_some_iff.1 stmt
  rw [toRun_of_found found, List.drop_eq_getElem_cons hlt, hget]

end Process

end LineBasic
