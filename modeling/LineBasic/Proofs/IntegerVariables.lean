import LineBasic.Proofs.ProcessHistory
import LineBasic.Proofs.ProgramText
import LineBasic.Proofs.SnippetCompilation
import LineBasic.Proofs.TypeSoundness
import LineBasic.Proofs.WholeDoubles

/-!
# Integer variables

An assignment knows its variable by the key alone, and rounds if the last character of the key is the
mark of an integer variable.  Two things have to hold for this to keep integers in integer variables.
The key of a name has that mark only if the name has the percent sign, so no other variable is rounded,
and a text has no way into an integer variable.  The first is a matter of the keys, the second of the
types that are checked when a line is compiled.

All writes to the store are assignments of compiled lines, in the program as well as in snippets, apart
from those of an embedder.  A snippet also takes the variable out that it has made for its value.

## Main definitions

* `Value.IsInteger16`: a value is an integer of sixteen bits.
* `Belongs`: a value belongs under a key; `Variables.Sound`: all values of a store do.
* `Variables.Becomes`: what snippets make of a store.
* `Process.OwnVariables`: the rule that only snippets write variables.

## Main results

* `isIntegerKey_storageKey`: the keys of integer variables are those of names with a percent sign.
* `belongs_stored`: an assignment stores a value that belongs under its key.
* `sound_run`, `sound_step`: statements and steps keep a store sound.
* `integer_variables`: stores are sound in every history, and what would break that is an overflow.
-/

namespace LineBasic

/-! ## Keys and values -/

/-- The key of a name has the mark of an integer variable if the name has the percent sign. -/
theorem isIntegerKey_storageKey (name : String) :
    isIntegerKey (storageKey name) = true ↔ name.toList.getLast? = some '%' := by
  unfold isIntegerKey
  rw [getLast?_storageKey, decide_eq_true_eq]
  unfold splitMark
  split <;> simp_all

/-- An integer variable is none for texts. -/
theorem typeOfName_of_isIntegerKey {key : String} (integer : isIntegerKey key = true) :
    typeOfName key = .number := by
  unfold isIntegerKey at integer
  unfold typeOfName
  rw [decide_eq_true_eq] at integer
  rw [integer]
  rfl

/-- A value is an integer of sixteen bits. -/
inductive Value.IsInteger16 : Value → Prop
  | integer {n : Float} {k : Int} (whole : Number.whole? n = some k) (low : -32768 ≤ k)
      (high : k ≤ 32767) : IsInteger16 (.number n)

/-- A value belongs under a key: it has the type of the key, which is that of a name, and under the
key of an integer variable it is an integer of sixteen bits. -/
structure Belongs (key : String) (v : Value) : Prop where
  named : ∃ name, key = storageKey name
  typed : v.type = typeOfName key
  integer : isIntegerKey key = true → v.IsInteger16

/-- A double whose nearest integer has sixteen bits is rounded to it. -/
theorem isInteger16_round {n : Float} {k : Int} (nearest : Number.nearest? n = some k)
    (low : -32768 ≤ k) (high : k ≤ 32767) : Value.IsInteger16 (.number (Number.round n)) := by
  have hlog := Number.log2_le_of_lt (n := k.natAbs) (by omega)
  exact .integer (Number.whole?_round nearest hlog) low high

namespace Variables

variable {vars : Variables} {key : String} {v : Value}

/-- What is stored under the key of an integer variable is an integer of sixteen bits. -/
theorem isInteger16_stored (integer : isIntegerKey key = true) (number : v.type = .number) :
    Yields Value.IsInteger16 (stored key v) := by
  cases v with
  | text s => cases number
  | number n =>
      unfold stored
      dsimp only
      rw [if_pos integer]
      split
      · next k hnearest =>
          split
          · next hsmall =>
              obtain ⟨low, high⟩ := of_decide_eq_true hsmall
              exact yields_ok (isInteger16_round hnearest low high)
          · exact yields_error _
      · exact yields_error _

/-- A number that is not rounded to an integer of sixteen bits is not stored in an integer variable. -/
theorem stored_beyond {n : Float} (integer : isIntegerKey key = true)
    (beyond : ¬ (Value.number (Number.round n)).IsInteger16) :
    stored key (.number n) = .error (.ofKind .overflow) := by
  unfold stored
  dsimp only
  rw [if_pos integer]
  split
  · next k hnearest =>
      split
      · next hsmall =>
          obtain ⟨low, high⟩ := of_decide_eq_true hsmall
          exact absurd (isInteger16_round hnearest low high) beyond
      · rfl
  · rfl

/-- A value of the type of its key belongs under it when it is stored. -/
theorem belongs_stored (named : ∃ name, key = storageKey name) (typed : v.type = typeOfName key) :
    Yields (Belongs key) (stored key v) := by
  intro w hstored
  refine ⟨named, (yields_stored key v w hstored).trans typed, fun integer => ?_⟩
  have hnumber := typed.trans (typeOfName_of_isIntegerKey integer)
  exact isInteger16_stored integer hnumber w hstored

/-- All values of a store belong under their keys. -/
def Sound (vars : Variables) : Prop := vars.All Belongs

theorem Sound.typed (sound : vars.Sound) : vars.Typed :=
  fun key v hfound => (sound key v hfound).typed

theorem sound_assign (sound : vars.Sound) (named : ∃ name, key = storageKey name)
    (typed : v.type = typeOfName key) : Yields Sound (vars.assign key v) := by
  rw [assign_eq_bind]
  refine yields_bind (belongs_stored named typed) fun w hw => ?_
  exact yields_pure (all_insert sound hw)

end Variables

/-! ## Statements -/

/-- All variables that a statement assigns are those of names. -/
def Stmt.AssignsNames (s : Stmt) : Prop :=
  ∀ target value, (Stmt.assign target value).PartOf s → ∃ name, target = .ofName name

namespace Stmt

theorem composes_assignsNames (eol : Nat) : Composes eol AssignsNames where
  assignment ts := by
    unfold parseAssignment
    split
    · exact yields_error _
    · split
      · next name _ =>
          refine yields_bind (yields_any _) fun equals _ => ?_
          refine yields_bind (yields_any _) fun value _ => ?_
          split
          · refine yields_pure fun target value part => ?_
            cases part
            exact ⟨name, rfl⟩
          · exact yields_error _
      · exact yields_error _
  print ts := fun r hr target value part => by cases part
  ifThen _ _ eachYes := by
    intro target value part
    cases part with
    | only hmem part => exact eachYes _ hmem target value part
  ifThenElse _ _ eachYes eachNo := by
    intro target value part
    cases part with
    | yes hmem part => exact eachYes _ hmem target value part
    | no hmem part => exact eachNo _ hmem target value part
  raise _ _ := fun target value part => by cases part
  plain s hs := by
    intro target value part
    cases part with
    | self | only | yes | no => cases hs

end Stmt

section Runs

variable {vars : Variables} {source : String} {line : Line}

/-- A well-typed statement that assigns names keeps a store sound, also if it fails. -/
theorem sound_run {s : Stmt} (hs : s.WellTyped) (names : s.AssignsNames) (sound : vars.Sound) :
    (s.run vars).vars.Sound := by
  refine run_keeps hs Variables.all_empty (fun part vars sound => ?_) sound
  obtain ⟨name, rfl⟩ := names _ _ part
  cases hs.part part with
  | assign marked hvalue same =>
      exact yields_bind (fits_eval sound.typed hvalue).yields fun v hv =>
        Variables.sound_assign sound ⟨name, rfl⟩ (hv.trans (same.trans marked))

/-- The statements of a compiled line keep a store sound. -/
theorem sound_compiled (compiled : Line.compile source = .ok line) {s : Stmt}
    (hs : s ∈ line.statements) (sound : vars.Sound) : (s.run vars).vars.Sound :=
  sound_run (Line.compile_wellTyped compiled s hs)
    (Line.compile_composed (Stmt.composes_assignsNames source.length) compiled s hs) sound

theorem sound_runList (compiled : Line.compile source = .ok line) (sound : vars.Sound) :
    (Stmt.runList vars line.statements).vars.Sound :=
  runList_keeps (fun _ hs _ => sound_compiled compiled hs) sound

/-- An assignment of such a number is an overflow, and leaves the store as it is. -/
theorem run_assign_beyond {target : Variable} {value : Expr} {n : Float}
    (integer : isIntegerKey target.key = true) (hvalue : value.eval vars = .ok (.number n))
    (beyond : ¬ (Value.number (Number.round n)).IsInteger16) :
    (Stmt.assign target value).run vars = .faulty vars (.ofKind .overflow) := by
  have hassign : vars.assign target.key (.number n) = .error (.ofKind .overflow) := by
    unfold Variables.assign
    rw [Variables.stored_beyond integer beyond]
    rfl
  rw [Stmt.run, hvalue]
  show (match vars.assign target.key (.number n) with
    | .ok vars' => Outcome.quiet vars' .next
    | .error f => Outcome.faulty vars f) = _
  rw [hassign]

/-! ## Snippets -/

theorem sound_evaluate (sound : vars.Sound) (expression : String) :
    (Snippet.evaluate expression vars).vars.Sound := by
  unfold Snippet.evaluate
  split
  · exact sound
  · next hcompiled =>
      obtain ⟨type, -, hline⟩ := Snippet.compile_of_compileExpression hcompiled
      exact Variables.all_erase (sound_runList hline sound) _

theorem sound_execute (sound : vars.Sound) (statement : String) :
    (Snippet.execute statement vars).vars.Sound := by
  unfold Snippet.execute
  split
  · exact sound
  · split
    · exact sound
    · next hcompiled => exact sound_runList hcompiled sound

/-- What snippets make of a store. -/
inductive Variables.Becomes (vars : Variables) : Variables → Prop
  | same : Becomes vars vars
  | evaluate {vars' : Variables} (becomes : Becomes vars vars') (expression : String) :
      Becomes vars (Snippet.evaluate expression vars').vars
  | execute {vars' : Variables} (becomes : Becomes vars vars') (statement : String) :
      Becomes vars (Snippet.execute statement vars').vars

theorem sound_becomes {vars' : Variables} (becomes : vars.Becomes vars') (sound : vars.Sound) :
    vars'.Sound := by
  induction becomes with
  | same => exact sound
  | evaluate _ expression ih => exact sound_evaluate ih expression
  | execute _ statement ih => exact sound_execute ih statement

end Runs

/-! ## Histories -/

/-- Nobody but snippets writes the variables of a process. -/
def Process.OwnVariables (p q : Process) : Prop := p.vars.Becomes q.vars

theorem Process.admits_ownVariables : Admits Process.OwnVariables where
  refl _ := .same
  evaluate expression _ := .evaluate .same expression
  execute statement _ := .execute .same statement

section Histories

variable {source : String} {program : Program}

@[simp] theorem Process.follow_vars (program : Program) (number : Nat) (p : Process) (flow : Flow) :
    (p.follow program number flow).1.vars = p.vars := by
  unfold Process.follow
  split
  · rfl
  · split <;> rfl
  · split <;> rfl
  · split <;> rfl
  · rfl

/-- The lines of a program are compiled. -/
theorem Program.compiled_of_mem (parsed : Program.parse source = .ok program) {line : SourceLine}
    (hline : line ∈ program.lines) : ∃ text, Line.compile text = .ok line.compiled := by
  obtain ⟨before, raw, after, -, hstands, -⟩ := (Program.comesFrom_of_mem parsed hline).split
  exact ⟨_, hstands.compiled⟩

/-- A step of a program keeps a store sound. -/
theorem sound_step (parsed : Program.parse source = .ok program) {line : SourceLine} {p : Process}
    (hline : line ∈ program.lines) (sound : p.vars.Sound) :
    (p.step program line).1.vars.Sound := by
  obtain ⟨text, hcompiled⟩ := Program.compiled_of_mem parsed hline
  unfold Process.step
  split
  · exact sound
  · next s hs =>
      have hrun := sound_compiled hcompiled (List.mem_of_getElem? hs) sound
      dsimp only
      split
      · rw [Process.follow_vars]
        exact hrun
      · exact hrun

/--
In every history in which nobody but the program and snippets writes variables, an integer variable
holds an integer of sixteen bits.  Integer variables are those with a percent sign, whichever name one
calls them by, and there are no variables without a name.  An assignment that would store another
number in an integer variable is an overflow, and leaves the store as it is.
-/
theorem integer_variables (parsed : Program.parse source = .ok program) {h : Host}
    (history : HistoryWithin Process.OwnVariables program h) :
    (∀ key v, h.process.vars.find? key = some v →
      (isIntegerKey key = true → v.IsInteger16) ∧ (∃ name, key = storageKey name) ∧
      ∀ name, key = storageKey name →
        (isIntegerKey key = true ↔ name.toList.getLast? = some '%')) ∧
    (∀ (vars : Variables) target value n, isIntegerKey target.key = true →
      value.eval vars = .ok (.number n) → ¬ (Value.number (Number.round n)).IsInteger16 →
      (Stmt.assign target value).run vars = .faulty vars (.ofKind .overflow)) := by
  have hsound : h.process.vars.Sound :=
    Host.process_keeps (P := fun p => p.vars.Sound) Process.admits_ownVariables sound_becomes
      Variables.all_empty (sound_step parsed) history
  refine ⟨fun key v hfound => ?_, fun vars target value n integer hvalue beyond => ?_⟩
  · have hbelongs := hsound key v hfound
    refine ⟨hbelongs.integer, hbelongs.named, fun name hname => ?_⟩
    rw [hname]
    exact isIntegerKey_storageKey name
  · exact run_assign_beyond integer hvalue beyond

/-- A line that stores a rounded number. -/
def SourceLine.rounding : SourceLine :=
  ⟨10, "10 a%=2.6", 0, 9,
    ⟨some 10, [.assign ⟨"aI", .number⟩ (.number (Float.ofScientific 26 true 1))]⟩⟩

/-- An assignment of a number that does not fit. -/
def Stmt.overflowing : Stmt := .assign ⟨"aI", .number⟩ (.number (Float.ofNat 40000))

/-- The line of that assignment. -/
def SourceLine.overflowing : SourceLine := ⟨20, "20 a%=40000", 10, 11, ⟨some 20, [.overflowing]⟩⟩

/-- The program of these lines. -/
def Program.rounding : Program := ⟨⟨[(10, .rounding), (20, .overflowing)], by decide⟩⟩

/-- The program behind its first line. -/
def Host.rounded : Host := (((Host.ofProgram .rounding).start false).tick.1).tick.1

/-- The second assignment fails, and the variable keeps the rounded number. -/
theorem integer_variables_rounding :
    Program.parse "10 a%=2.6\n20 a%=40000" = .ok .rounding ∧
      HistoryWithin Process.OwnVariables .rounding Host.rounded ∧
      Host.rounded.process.vars.find? "aI" = some (.number (Float.ofNat 3)) ∧
      (Value.number (Float.ofNat 3)).IsInteger16 ∧
      Stmt.overflowing.run Host.rounded.process.vars =
        .faulty Host.rounded.process.vars (.ofKind .overflow) := by
  have parsed : Program.parse "10 a%=2.6\n20 a%=40000" = .ok .rounding := by
    with_unfolding_all rfl
  have history : HistoryWithin Process.OwnVariables .rounding Host.rounded :=
    .tick (.tick (.start .load false) rfl) (by decide +kernel)
  have hfound : Host.rounded.process.vars.find? "aI" = some (.number (Float.ofNat 3)) := by
    decide +kernel
  have hbeyond : ¬ (Value.number (Number.round (Float.ofNat 40000))).IsInteger16 := by
    intro hinteger
    have hwhole : Number.whole? (Number.round (Float.ofNat 40000)) = some 40000 := by
      decide +kernel
    cases hinteger with
    | integer whole low high =>
        cases hwhole.symm.trans whole
        exact absurd high (by decide)
  have hvalue : (Expr.number (Float.ofNat 40000)).eval Host.rounded.process.vars =
      .ok (.number (Float.ofNat 40000)) := by
    decide +kernel
  obtain ⟨hvars, hassigns⟩ := integer_variables parsed history
  exact ⟨parsed, history, hfound, (hvars "aI" _ hfound).1 (by decide),
    hassigns _ ⟨"aI", .number⟩ _ _ (by decide) hvalue hbeyond⟩

end Histories

end LineBasic
