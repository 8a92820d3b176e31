import LineBasic.Proofs.Typing
import LineBasic.Stmt.Run

/-!
# Well-typed lines do not go wrong

Operators and functions ask for the types of their operands when they run, and functions take their
arguments by place.  In a well-typed line these questions have only one answer, as long as the store
holds a text under every key that ends in the mark of a text and numbers under all others.  Every
statement leaves such a store behind, also one that fails.

## Main definitions

* `Variables.All`: every value of a store has a property.
* `Variables.Typed`: every value of a store has the type that its key is for.
* `Fits`, `Gives`: a result is no type mismatch, and its value has a property, or is of a type.
* `Stmt.PartOf`, `Line.HasExpr`, `Line.HasStmt`: what stands in a line.

## Main results

* `fits_eval`: a well-typed expression evaluates to a value of its type.
* `run_keeps`: what the assignments of a statement keep holds behind it.
* `typed_run`: a well-typed statement leaves a typed store.
* `compiled_sound`: both, for everything that stands in a compiled line.
-/

namespace LineBasic

/-! ## Results without a type mismatch -/

/-- A result is no type mismatch, and its value has a property. -/
inductive Fits {α : Type} (P : α → Prop) : Evaluated α → Prop where
  | ok {a : α} (holds : P a) : Fits P (.ok a)
  | error {f : Fault} (other : f.code ≠ some FaultKind.typeMismatch.code) : Fits P (.error f)

/-- A result is no type mismatch, and its value is of a type. -/
abbrev Gives (t : ValueType) : Evaluated Value → Prop := Fits fun v => v.type = t

section Results

variable {α β : Type} {P : α → Prop} {Q : β → Prop}

theorem fits_fault {kind : FaultKind} (other : kind ≠ .typeMismatch) :
    Fits P (fault kind : Evaluated α) := by
  refine .error fun hcode => ?_
  cases kind with
  | typeMismatch => exact other rfl
  | unexpectedReturn | improperArgument | overflow | lineDoesNotExist | divisionByZero
  | stringTooLong => cases hcode

theorem fits_bind {r : Evaluated α} {k : α → Evaluated β} (hr : Fits P r)
    (hk : ∀ a, P a → Fits Q (k a)) : Fits Q (r >>= k) := by
  cases hr with
  | ok ha => exact hk _ ha
  | error hother => exact .error hother

theorem fits_map {r : Evaluated α} {g : α → β} (hr : Fits P r) (hg : ∀ a, P a → Q (g a)) :
    Fits Q (r.map g) := by
  cases hr with
  | ok ha => exact .ok (hg _ ha)
  | error hother => exact .error hother

theorem Fits.yields {r : Evaluated α} (hr : Fits P r) : Yields P r := by
  cases hr with
  | ok ha => exact yields_ok ha
  | error => exact yields_error _

end Results

/-! ## Values of a known type -/

theorem fits_asNumber {v : Value} (hv : v.type = .number) : Fits (fun _ => True) v.asNumber := by
  cases v with
  | number n => exact .ok trivial
  | text s => cases hv

theorem fits_asText {v : Value} (hv : v.type = .text) : Fits (fun _ => True) v.asText := by
  cases v with
  | number n => cases hv
  | text s => exact .ok trivial

theorem fits_finiteValue (n : Float) : Gives .number (finiteValue n) := by
  unfold finiteValue
  split
  · exact .ok rfl
  · exact fits_fault (by decide)

theorem fits_word16 (n : Float) : Fits (fun _ => True) (word16 n) := by
  unfold word16
  split
  · split
    · exact .ok trivial
    · exact fits_fault (by decide)
  · exact fits_fault (by decide)

theorem fits_count {v : Value} (hv : v.type = .number) : Fits (fun _ => True) (count v) := by
  refine fits_bind (fits_asNumber hv) fun n _ => ?_
  split
  · split
    · exact .ok trivial
    · exact fits_fault (by decide)
  · exact fits_fault (by decide)

/-! ## Operators -/

theorem fits_compareValues {lhs rhs : Value} (same : lhs.type = rhs.type) :
    Fits (fun _ => True) (compareValues lhs rhs) := by
  cases lhs with
  | number a =>
      cases rhs with
      | number b => exact .ok trivial
      | text b => cases same
  | text a =>
      cases rhs with
      | number b => cases same
      | text b => exact .ok trivial

theorem fits_words {a b : Float} {k : Int16 → Int16 → Evaluated Value}
    (hk : ∀ x y, Gives .number (k x y)) :
    Gives .number (do k (← word16 a) (← word16 b)) :=
  fits_bind (fits_word16 a) fun x _ => fits_bind (fits_word16 b) fun y _ => hk x y

/-- An operator that does not compare gives a number for two numbers. -/
theorem fits_applyNumbers {op : BinaryOp} (hop : op.isComparison = false) (a b : Float) :
    Gives .number (op.applyNumbers a b) := by
  cases op with
  | add | sub | mul | pow => exact fits_finiteValue _
  | div =>
      unfold BinaryOp.applyNumbers
      dsimp only
      split
      · exact fits_fault (by decide)
      · exact fits_finiteValue _
  | intDiv | mod =>
      refine fits_words fun x y => ?_
      split
      · exact fits_fault (by decide)
      · exact .ok rfl
  | and | or | xor => exact fits_words fun x y => .ok rfl
  | eq | ne | lt | gt | le | ge => cases hop

theorem fits_joinTexts (a b : String) : Gives .text (joinTexts a b) := by
  unfold joinTexts
  split
  · exact fits_fault (by decide)
  · exact .ok rfl

theorem apply_numbers {op : BinaryOp} (hop : op.isComparison = false) (a b : Float) :
    op.apply (.number a) (.number b) = op.applyNumbers a b := by
  cases op with
  | add | sub | mul | div | intDiv | mod | pow | and | or | xor => rfl
  | eq | ne | lt | gt | le | ge => cases hop

/-- An operator that accepts the types of its operands gives a value of the type of the
operation. -/
theorem fits_binary {op : BinaryOp} {lhs rhs : Value}
    (accepts : op.accepts lhs.type rhs.type = true) :
    Gives (if op = .add then lhs.type else .number) (op.apply lhs rhs) := by
  unfold BinaryOp.accepts at accepts
  cases hop : op.isComparison with
  | true =>
      rw [if_pos (.inr hop), decide_eq_true_eq] at accepts
      have hadd : op ≠ .add := by
        rintro rfl
        cases hop
      unfold BinaryOp.apply
      rw [if_pos hop, if_neg hadd]
      exact fits_map (fits_compareValues accepts) fun _ _ => rfl
  | false =>
      cases lhs with
      | number a =>
          cases rhs with
          | number b =>
              rw [apply_numbers hop, show Value.type (.number a) = .number from rfl, ite_self]
              exact fits_applyNumbers hop a b
          | text b => cases op <;> cases accepts
      | text a =>
          cases rhs with
          | number b => cases op <;> cases accepts
          | text b =>
              by_cases hadd : op = .add
              · subst hadd
                exact fits_joinTexts a b
              · simp [hadd, hop, Value.type] at accepts

theorem fits_unary {op : UnaryOp} {arg : Value} (number : arg.type = .number) :
    Gives .number (op.apply arg) := by
  refine fits_bind (fits_asNumber number) fun n _ => ?_
  cases op with
  | neg => exact fits_finiteValue _
  | not => exact fits_bind (fits_word16 n) fun _ _ => .ok rfl

/-! ## Functions -/

/-- The number of arguments that a function looks at without asking whether they are there. -/
def Builtin.required : Builtin → Nat
  | .left | .right | .mid => 2
  | _ => 1

theorem Builtin.required_le {f : Builtin} {n : Nat} (accepts : f.accepts n = true) :
    f.required ≤ n := by
  cases f <;> simp [Builtin.accepts] at accepts <;> simp only [Builtin.required] <;> omega

/-- A function that looks at an argument which is not there fails. -/
theorem Builtin.apply_missing {f : Builtin} {args : List Value}
    (missing : args.length < f.required) : f.apply args = fault .typeMismatch := by
  cases args with
  | nil => cases f <;> rfl
  | cons v rest =>
      have htwo : f.required = 2 ∧ rest = [] := by
        have hle : f.required ≤ 2 := by cases f <;> decide
        rw [List.length_cons] at missing
        exact ⟨by omega, List.length_eq_zero_iff.1 (by omega)⟩
      obtain ⟨htwo, rfl⟩ := htwo
      cases f with
      | left | right | mid => cases v <;> rfl
      | _ => cases htwo

/-- A function of one number, as long as it is one. -/
theorem fits_applyNumber {f : Builtin} (number : f.paramType 0 = .number)
    (one : f ≠ .min ∧ f ≠ .max)
    (other : f ≠ .chr) (n : Float) : Gives f.returnType (f.applyNumber n) := by
  cases f with
  | abs | int | fix | sin | cos | tan | atn | exp => exact fits_finiteValue _
  | sgn | str => exact .ok rfl
  | sqr | log =>
      unfold Builtin.applyNumber
      dsimp only
      split
      · exact fits_fault (by decide)
      · exact fits_finiteValue _
  | len | asc | val | left | right | mid | upper | lower => cases number
  | chr => exact absurd rfl other
  | min => exact absurd rfl one.1
  | max => exact absurd rfl one.2

/-- A function of one text, as long as it takes no more. -/
theorem fits_applyText {f : Builtin} (text : f.paramType 0 = .text) (one : f.required = 1)
    (s : String) : Gives f.returnType (f.applyText s) := by
  cases f with
  | len | val | upper | lower => exact .ok rfl
  | asc =>
      unfold Builtin.applyText
      dsimp only
      split
      · exact .ok rfl
      · exact fits_fault (by decide)
  | left | right | mid => cases one
  | abs | int | fix | sgn | sqr | sin | cos | tan | atn | exp | log | chr | str | min | max =>
      cases text

theorem fits_foldNumbers {f : Float → Float → Float} {rest : List Value}
    (hrest : ∀ v ∈ rest, v.type = .number) (first : Float) :
    Fits (fun _ => True) (foldNumbers f first rest) := by
  unfold foldNumbers
  induction rest generalizing first with
  | nil => exact .ok trivial
  | cons v rest ih =>
      obtain ⟨hv, hrest⟩ := List.forall_mem_cons.1 hrest
      rw [List.foldlM_cons]
      have hstep : Fits (fun _ => True) (do return f first (← v.asNumber) : Evaluated Float) :=
        fits_bind (fits_asNumber hv) fun n _ => .ok trivial
      exact fits_bind hstep fun acc _ => ih hrest acc

theorem fits_smallest {f : Float → Float → Float} {first : Value} {rest : List Value}
    (hfirst : first.type = .number) (hrest : ∀ v ∈ rest, v.type = .number) :
    Gives .number (do return .number (← foldNumbers f (← first.asNumber) rest)) := by
  refine fits_bind (fits_asNumber hfirst) fun n _ => ?_
  exact fits_bind (fits_foldNumbers hrest n) fun _ _ => .ok rfl

/-- A function of one argument gives a value of its type. -/
theorem fits_apply_one {f : Builtin} (one : f.accepts 1 = true) {v : Value}
    (type : v.type = f.paramType 0) : Gives f.returnType (f.apply [v]) := by
  cases f with
  | abs | int | fix | sgn | sqr | sin | cos | tan | atn | exp | log | str =>
      refine fits_bind (fits_asNumber type) fun n _ => ?_
      exact fits_applyNumber rfl ⟨by decide, by decide⟩ (by decide) n
  | len | asc | val | upper | lower =>
      exact fits_bind (fits_asText type) fun s _ => fits_applyText rfl rfl s
  | chr => exact fits_bind (fits_count type) fun code _ => .ok rfl
  | min | max => exact fits_smallest type fun v hv => by cases hv
  | left | right | mid => cases one

/-- A part of a text from a place on, of a length that may be left out. -/
theorem fits_mid {s start : Value} {rest : List Value} (hs : s.type = .text)
    (hstart : start.type = .number) (hrest : ∀ v ∈ rest, v.type = .number) :
    Gives .text (Builtin.mid.apply (s :: start :: rest)) := by
  refine fits_bind (fits_asText hs) fun text _ => ?_
  refine fits_bind (fits_count hstart) fun n _ => ?_
  dsimp only
  split
  · exact fits_fault (by decide)
  · cases rest with
    | nil => exact .ok rfl
    | cons length rest =>
        refine fits_bind (fits_count (hrest length List.mem_cons_self)) fun _ _ => ?_
        exact .ok rfl

/-- A function gives a value of its type for arguments that it takes. -/
theorem fits_apply {f : Builtin} {args : List Value} (takes : f.Takes (args.map Value.type)) :
    Gives f.returnType (f.apply args) := by
  have hcount : f.accepts args.length = true := by
    rw [← List.length_map Value.type]
    exact takes.count
  have htype : ∀ i (v : Value), args[i]? = some v → v.type = f.paramType i := by
    intro i v hv
    refine takes.type i v.type ?_
    rw [List.getElem?_map, hv]
    rfl
  cases f with
  | left =>
      match args, hcount with
      | [s, n], _ =>
          refine fits_bind (fits_count (htype 1 n rfl)) fun _ _ => ?_
          exact fits_bind (fits_asText (htype 0 s rfl)) fun _ _ => .ok rfl
  | right =>
      match args, hcount with
      | [s, n], _ =>
          refine fits_bind (fits_asText (htype 0 s rfl)) fun _ _ => ?_
          exact fits_bind (fits_count (htype 1 n rfl)) fun _ _ => .ok rfl
  | mid =>
      match args, hcount with
      | s :: start :: rest, _ =>
          refine fits_mid (htype 0 s rfl) (htype 1 start rfl) fun v hv => ?_
          obtain ⟨i, hi⟩ := List.getElem?_of_mem hv
          exact htype (i + 2) v hi
  | min | max =>
      match args, hcount with
      | first :: rest, _ =>
          refine fits_smallest (htype 0 first rfl) fun v hv => ?_
          obtain ⟨i, hi⟩ := List.getElem?_of_mem hv
          exact htype (i + 1) v hi
  | abs | int | fix | sgn | sqr | sin | cos | tan | atn | exp | log | len | asc | val | chr | str
  | upper | lower =>
      obtain ⟨v, rfl⟩ := List.length_eq_one_iff.1 (beq_iff_eq.1 hcount)
      exact fits_apply_one rfl (htype 0 v rfl)

/-! ## Stores -/

/-- Every value of a store has a property, together with its key. -/
def Variables.All (P : String → Value → Prop) (vars : Variables) : Prop :=
  ∀ key v, vars.find? key = some v → P key v

/-- Every value of a store has the type that its key is for. -/
def Variables.Typed (vars : Variables) : Prop :=
  ∀ key v, vars.find? key = some v → v.type = typeOfName key

namespace Variables

variable {vars : Variables} {P : String → Value → Prop}

theorem all_empty : All P ∅ := by
  intro key v hfound
  cases hfound

theorem all_insert (all : vars.All P) {key : String} {v : Value} (hv : P key v) :
    All P (vars.insert key v) := by
  intro key' v' hfound
  rw [Table.find?_insert] at hfound
  split at hfound
  · next hsame =>
      cases hfound
      exact hsame ▸ hv
  · exact all key' v' hfound

theorem all_erase (all : vars.All P) (key : String) : All P (vars.erase key) := by
  intro key' v hfound
  rw [Table.find?_erase] at hfound
  split at hfound
  · cases hfound
  · exact all key' v hfound

theorem typed_empty : Typed ∅ := all_empty

theorem type_valueOf (typed : vars.Typed) {v : Variable} (hv : v.WellTyped) :
    (vars.valueOf v.key v.type).type = v.type := by
  unfold valueOf
  cases hfound : vars.find? v.key with
  | none => exact Value.type_ofType v.type
  | some value => exact (typed v.key value hfound).trans hv.symm

theorem typed_insert (typed : vars.Typed) {key : String} {v : Value}
    (hv : v.type = typeOfName key) : Typed (vars.insert key v) :=
  all_insert typed hv

/-- A value keeps its type when it is stored. -/
theorem yields_stored (key : String) (v : Value) :
    Yields (fun stored => stored.type = v.type) (stored key v) := by
  unfold stored
  split
  · split
    · split
      · split
        · exact yields_ok rfl
        · exact yields_error _
      · exact yields_error _
    · exact yields_ok rfl
  · exact yields_ok rfl

theorem assign_eq_bind (vars : Variables) (key : String) (v : Value) :
    vars.assign key v = stored key v >>= fun w => pure (vars.insert key w) := by
  unfold assign
  cases stored key v <;> rfl

theorem yields_assign (typed : vars.Typed) {key : String} {v : Value}
    (hv : v.type = typeOfName key) : Yields Typed (vars.assign key v) := by
  rw [assign_eq_bind]
  refine yields_bind (yields_stored key v) fun w hw => ?_
  exact yields_pure (typed_insert typed (hw.trans hv))

end Variables

/-! ## Expressions -/

section Runs

variable {vars : Variables}

theorem fits_evalAll {args : List Expr} (each : ∀ e ∈ args, Gives e.type (e.eval vars)) :
    Fits (fun vs => vs.map Value.type = args.map Expr.type) (Expr.evalAll vars args) := by
  induction args with
  | nil => exact .ok rfl
  | cons e rest ih =>
      obtain ⟨he, hrest⟩ := List.forall_mem_cons.1 each
      refine fits_bind he fun v hv => ?_
      refine fits_bind (ih hrest) fun vs hvs => ?_
      refine .ok ?_
      rw [List.map_cons, List.map_cons, hv, hvs]

/-- A well-typed expression evaluates to a value of its type. -/
theorem fits_eval (typed : vars.Typed) {e : Expr} (he : e.WellTyped) :
    Gives e.type (e.eval vars) := by
  induction he with
  | number n => exact fits_finiteValue n
  | text s => exact .ok rfl
  | var marked => exact .ok (Variables.type_valueOf typed marked)
  | unary op _ number ih => exact fits_bind ih fun v hv => fits_unary (hv.trans number)
  | binary _ _ accepts ihl ihr =>
      refine fits_bind ihl fun a ha => ?_
      refine fits_bind ihr fun b hb => ?_
      rw [← ha, ← hb] at accepts
      have hgives := fits_binary accepts
      rw [ha] at hgives
      exact hgives
  | call _ takes ih =>
      refine fits_bind (fits_evalAll ih) fun vs hvs => ?_
      rw [← hvs] at takes
      exact fits_apply takes

/-! ## Statements -/

/-- A branch runs as its statements. -/
@[simp] theorem run_branch (b : Branch) : Branch.run vars b = Stmt.runList vars b.body := by
  cases b with
  | line n => rfl
  | statements body => rfl

end Runs

/-! ## Lines -/

/-- An expression that a statement evaluates. -/
inductive Stmt.Evaluates (e : Expr) : Stmt → Prop where
  | value {target : Variable} : Evaluates e (.assign target e)
  | item {items : List PrintItem} (mem : .expr e ∈ items) : Evaluates e (.print items)
  | test {yes : Branch} : Evaluates e (.ifThen e yes)
  | testElse {yes no : Branch} : Evaluates e (.ifThenElse e yes no)
  | code : Evaluates e (.raise e)

/-- A statement is another one or stands in a branch of it, at any depth. -/
inductive Stmt.PartOf (s : Stmt) : Stmt → Prop where
  | self : PartOf s s
  | only {test : Expr} {yes : Branch} {t : Stmt} (mem : t ∈ yes.body) (part : PartOf s t) :
      PartOf s (.ifThen test yes)
  | yes {test : Expr} {yes no : Branch} {t : Stmt} (mem : t ∈ yes.body) (part : PartOf s t) :
      PartOf s (.ifThenElse test yes no)
  | no {test : Expr} {yes no : Branch} {t : Stmt} (mem : t ∈ no.body) (part : PartOf s t) :
      PartOf s (.ifThenElse test yes no)

/-- A statement stands in a line. -/
def Line.HasStmt (line : Line) (s : Stmt) : Prop := ∃ t ∈ line.statements, s.PartOf t

/-- An expression stands in a line. -/
def Line.HasExpr (line : Line) (e : Expr) : Prop :=
  ∃ s, line.HasStmt s ∧ ∃ whole, s.Evaluates whole ∧ e.PartOf whole

theorem Stmt.WellTyped.part {s whole : Stmt} (part : s.PartOf whole) (hw : whole.WellTyped) :
    s.WellTyped := by
  induction part with
  | self => exact hw
  | only mem _ ih =>
      cases hw with
      | ifThen _ _ each => exact ih (each _ mem)
  | yes mem _ ih =>
      cases hw with
      | ifThenElse _ _ eachYes => exact ih (eachYes _ mem)
  | no mem _ ih =>
      cases hw with
      | ifThenElse _ _ _ eachNo => exact ih (eachNo _ mem)

theorem Stmt.WellTyped.evaluates {s : Stmt} {e : Expr} (evaluates : s.Evaluates e)
    (hs : s.WellTyped) : e.WellTyped := by
  cases evaluates with
  | value =>
      cases hs with
      | assign _ typed => exact typed
  | item mem =>
      cases hs with
      | print each => exact each e mem
  | test =>
      cases hs with
      | ifThen typed => exact typed
  | testElse =>
      cases hs with
      | ifThenElse typed => exact typed
  | code =>
      cases hs with
      | raise typed => exact typed

/-! ### What running keeps -/

section Kept

variable {vars : Variables} {P : Variables → Prop}

theorem runList_keeps {body : List Stmt}
    (each : ∀ s ∈ body, ∀ {vars : Variables}, P vars → P (s.run vars).vars) (h : P vars) :
    P (Stmt.runList vars body).vars := by
  induction body generalizing vars with
  | nil => exact h
  | cons s rest ih =>
      obtain ⟨hs, hrest⟩ := List.forall_mem_cons.1 each
      rw [Stmt.runList]
      unfold Outcome.andThen
      split
      · exact ih hrest (hs h)
      · exact hs h

/-- A property of stores that the empty store has and all assignments of a statement keep holds
behind the statement, also if it fails. -/
theorem run_keeps {s : Stmt} (hs : s.WellTyped) (hempty : P ∅)
    (hassign : ∀ {target value}, (Stmt.assign target value).PartOf s → ∀ {vars : Variables},
      P vars → Yields P (do vars.assign target.key (← value.eval vars)))
    (h : P vars) : P (s.run vars).vars := by
  induction hs generalizing vars with
  | assign =>
      rw [Stmt.run]
      split
      · next vars' hassigned => exact hassign .self h vars' hassigned
      · exact h
  | print =>
      rw [Stmt.run]
      split <;> exact h
  | ifThen _ _ _ ih =>
      rw [Stmt.run]
      split
      · rw [run_branch]
        exact runList_keeps (fun s hs _ => ih s hs fun part => hassign (.only hs part)) h
      · exact h
      · exact h
  | ifThenElse _ _ _ _ ihYes ihNo =>
      rw [Stmt.run]
      split
      · rw [run_branch]
        exact runList_keeps (fun s hs _ => ihYes s hs fun part => hassign (.yes hs part)) h
      · rw [run_branch]
        exact runList_keeps (fun s hs _ => ihNo s hs fun part => hassign (.no hs part)) h
      · exact h
  | goto | gosub | «return» | «end» | stop | remark => exact h
  | raise =>
      rw [Stmt.run]
      split <;> exact h
  | clear => exact hempty

/-- A well-typed statement leaves a typed store, also if it fails. -/
theorem typed_run {s : Stmt} (hs : s.WellTyped) (typed : vars.Typed) : (s.run vars).vars.Typed := by
  refine run_keeps hs Variables.typed_empty (fun part vars typed => ?_) typed
  cases hs.part part with
  | assign marked hvalue same =>
      exact yields_bind (fits_eval typed hvalue).yields fun v hv =>
        Variables.yields_assign typed (hv.trans (same.trans marked))

end Kept

/--
A compiled line, run on a store that holds texts under the keys of texts and numbers under all
others.  No expression in it fails for a type or looks at an argument that is not there, every value
has the type of its expression, and every statement leaves such a store, also one that fails.
-/
theorem compiled_sound {source : String} {line : Line} (compiled : Line.compile source = .ok line)
    {vars : Variables} (typed : vars.Typed) :
    (∀ e, line.HasExpr e →
      (∀ f, e.eval vars = .error f → f.code ≠ some FaultKind.typeMismatch.code) ∧
      (∀ v, e.eval vars = .ok v → v.type = e.type) ∧
      (∀ f args vs, e = .call f args → Expr.evalAll vars args = .ok vs →
        f.required ≤ vs.length)) ∧
    (∀ s, line.HasStmt s → (s.run vars).vars.Typed) := by
  have hstmt : ∀ s, line.HasStmt s → s.WellTyped := by
    rintro s ⟨t, ht, part⟩
    exact (Line.compile_wellTyped compiled t ht).part part
  refine ⟨?_, fun s hs => typed_run (hstmt s hs) typed⟩
  rintro e ⟨s, hs, whole, evaluates, part⟩
  have he : e.WellTyped := ((hstmt s hs).evaluates evaluates).part part
  refine ⟨?_, (fits_eval typed he).yields, ?_⟩
  · intro f hfault
    have hgives := fits_eval typed he
    rw [hfault] at hgives
    cases hgives with
    | error other => exact other
  · rintro f args vs rfl hvalues
    cases he with
    | call each takes =>
        have hall := (fits_evalAll fun e he => fits_eval typed (each e he)).yields vs hvalues
        rw [← hall] at takes
        have hcount := takes.count
        rw [List.length_map] at hcount
        exact Builtin.required_le hcount

/-! ## A line that cuts a text -/

/-- The text that remains of a text behind a cut. -/
def Expr.cut : Expr := .call .left [.var ⟨"a$", .text⟩, .var ⟨"aR", .number⟩]

/-- A line that tests a number and cuts a text. -/
def Line.cutting : Line :=
  ⟨none, [.ifThen (.var ⟨"aR", .number⟩) (.statements [.assign ⟨"a$", .text⟩ .cut])]⟩

/-- A store with a text to cut. -/
def Variables.uncut : Variables := Table.insert ∅ "a$" (.text "hello")

/-- The line and the store are sound together, in the branch as well as on the line. -/
theorem compiled_sound_cutting :
    Line.compile "if a then a$=left$(a$,a)" = .ok .cutting ∧ Variables.uncut.Typed ∧
      (∀ v, Expr.cut.eval .uncut = .ok v → v.type = .text) ∧
      (∀ s ∈ Line.cutting.statements, (s.run .uncut).vars.Typed) := by
  have hcompiled : Line.compile "if a then a$=left$(a$,a)" = .ok .cutting := by
    with_unfolding_all rfl
  have htyped : Variables.uncut.Typed := Variables.typed_insert Variables.typed_empty rfl
  obtain ⟨hexprs, hstmts⟩ := compiled_sound hcompiled htyped
  have hcut : Line.cutting.HasExpr .cut :=
    ⟨_, ⟨_, List.mem_cons_self, .only List.mem_cons_self .self⟩, _, .value, .self⟩
  exact ⟨hcompiled, htyped, (hexprs _ hcut).2.1, fun s hs => hstmts s ⟨s, hs, .self⟩⟩

end LineBasic
