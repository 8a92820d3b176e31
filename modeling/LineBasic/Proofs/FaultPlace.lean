import LineBasic.Process

/-!
# Faults before they have a place

Expressions and statements do not know the line they stand on.  Every fault that they raise is the
fault of a code and nothing more, and a jump adds only the number that it misses.  The line of a
fault is therefore always the line on which the host was when it caught it.

## Main definitions

* `Coded`: every fault of a result is the fault of a code.

## Main results

* `coded_eval`, `coded_run`: expressions and statements raise such faults.
* `step_fault_line`: a fault of a program names no line.
-/

namespace LineBasic

/-- Every fault that a result can be is the fault of a code. -/
def Coded {α : Type} (r : Evaluated α) : Prop := ∀ f, r = .error f → ∃ code, f = Fault.ofCode code

/-! ## Results built from results -/

section Results

variable {α β : Type}

theorem coded_ok (a : α) : Coded (.ok a) := by
  intro f h
  cases h

theorem coded_pure (a : α) : Coded (pure a : Evaluated α) := coded_ok a

theorem coded_fault (kind : FaultKind) : Coded (fault kind : Evaluated α) := by
  intro f h
  cases h
  exact ⟨kind.code, rfl⟩

theorem coded_bind {r : Evaluated α} {k : α → Evaluated β} (hr : Coded r)
    (hk : ∀ a, Coded (k a)) : Coded (r >>= k) := by
  intro f h
  cases r with
  | ok a => exact hk a f h
  | error g =>
      cases h
      exact hr f rfl

theorem coded_map {r : Evaluated α} (hr : Coded r) (g : α → β) : Coded (r.map g) := by
  intro f h
  cases r with
  | ok a => cases h
  | error e =>
      cases h
      exact hr f rfl

theorem coded_foldlM {k : β → α → Evaluated β} (hk : ∀ b a, Coded (k b a)) (xs : List α) (b : β) :
    Coded (xs.foldlM k b) := by
  induction xs generalizing b with
  | nil => exact coded_pure b
  | cons x rest ih =>
      rw [List.foldlM_cons]
      exact coded_bind (hk b x) ih

end Results

/-! ## Expressions -/

theorem coded_asNumber (v : Value) : Coded v.asNumber := by
  cases v with
  | number n => exact coded_ok n
  | text s => exact coded_fault _

theorem coded_asText (v : Value) : Coded v.asText := by
  cases v with
  | number n => exact coded_fault _
  | text s => exact coded_ok s

theorem coded_finiteValue (n : Float) : Coded (finiteValue n) := by
  unfold finiteValue
  split
  · exact coded_ok _
  · exact coded_fault _

theorem coded_word16 (n : Float) : Coded (word16 n) := by
  unfold word16
  split
  · split
    · exact coded_ok _
    · exact coded_fault _
  · exact coded_fault _

theorem coded_count (v : Value) : Coded (count v) := by
  refine coded_bind (coded_asNumber v) fun n => ?_
  split
  · split
    · exact coded_ok _
    · exact coded_fault _
  · exact coded_fault _

theorem coded_compareValues (lhs rhs : Value) : Coded (compareValues lhs rhs) := by
  unfold compareValues
  split
  · exact coded_ok _
  · exact coded_ok _
  · exact coded_fault _

/-- An operation on the sixteen bits of two numbers. -/
private theorem coded_words {a b : Float} {k : Int16 → Int16 → Evaluated Value}
    (hk : ∀ x y, Coded (k x y)) :
    Coded (do
      let x ← word16 a
      let y ← word16 b
      k x y) :=
  coded_bind (coded_word16 a) fun x => coded_bind (coded_word16 b) fun y => hk x y

theorem coded_applyNumbers (op : BinaryOp) (a b : Float) : Coded (op.applyNumbers a b) := by
  have hdiv : ∀ {y : Int16} {v : Value},
      Coded (if y = 0 then fault .divisionByZero else .ok v) := by
    intro y v
    split
    · exact coded_fault _
    · exact coded_ok _
  cases op with
  | add | sub | mul | pow => exact coded_finiteValue _
  | div =>
      show Coded (if b == 0.0 then fault .divisionByZero else finiteValue (a / b))
      split
      · exact coded_fault _
      · exact coded_finiteValue _
  | intDiv | mod => exact coded_words fun x y => hdiv
  | and | or | xor => exact coded_words fun x y => coded_pure _
  | eq | ne | lt | gt | le | ge => exact coded_fault _

theorem coded_applyBinary (op : BinaryOp) (lhs rhs : Value) : Coded (op.apply lhs rhs) := by
  unfold BinaryOp.apply
  split
  · exact coded_map (coded_compareValues lhs rhs) _
  · split
    · unfold joinTexts
      split
      · exact coded_fault _
      · exact coded_ok _
    · exact coded_bind (coded_asNumber _) fun a =>
        coded_bind (coded_asNumber _) fun b => coded_applyNumbers _ a b

theorem coded_applyUnary (op : UnaryOp) (arg : Value) : Coded (op.apply arg) := by
  refine coded_bind (coded_asNumber arg) fun n => ?_
  cases op with
  | neg => exact coded_finiteValue _
  | not => exact coded_bind (coded_word16 n) fun x => coded_pure _

theorem coded_applyNumber (f : Builtin) (n : Float) : Coded (f.applyNumber n) := by
  have hcheck : ∀ {c : Prop} [Decidable c] {x : Float},
      Coded (if c then fault .improperArgument else finiteValue x) := by
    intro c _ x
    split
    · exact coded_fault _
    · exact coded_finiteValue _
  unfold Builtin.applyNumber
  split
  case h_5 => exact hcheck
  case h_11 => exact hcheck
  case h_13 => exact coded_fault _
  case h_4 => exact coded_ok _
  case h_12 => exact coded_ok _
  all_goals exact coded_finiteValue _

theorem coded_applyText (f : Builtin) (s : String) : Coded (f.applyText s) := by
  unfold Builtin.applyText
  split
  case h_2 =>
    split
    · exact coded_ok _
    · exact coded_fault _
  case h_6 => exact coded_fault _
  all_goals exact coded_ok _

theorem coded_foldNumbers (g : Float → Float → Float) (first : Float) (rest : List Value) :
    Coded (foldNumbers g first rest) :=
  coded_foldlM (fun _ v => coded_bind (coded_asNumber v) fun _ => coded_pure _) rest first

theorem coded_applyBuiltin (f : Builtin) (args : List Value) : Coded (f.apply args) := by
  unfold Builtin.apply
  split
  · exact coded_bind (coded_count _) fun _ => coded_pure _
  · exact coded_bind (coded_count _) fun _ => coded_bind (coded_asText _) fun _ => coded_pure _
  · exact coded_bind (coded_asText _) fun _ => coded_bind (coded_count _) fun _ => coded_pure _
  · refine coded_bind (coded_asText _) fun s => coded_bind (coded_count _) fun start => ?_
    have hguard : ∀ {next : PUnit → Evaluated Value}, (∀ u, Coded (next u)) →
        Coded (if start = 0 then fault .improperArgument >>= next else next ⟨⟩) := by
      intro next hnext
      split
      · exact coded_bind (coded_fault _) hnext
      · exact hnext _
    split
    · exact hguard fun _ => coded_pure _
    · exact hguard fun _ => coded_bind (coded_count _) fun _ => coded_pure _
  · exact coded_bind (coded_asNumber _) fun _ =>
      coded_bind (coded_foldNumbers _ _ _) fun _ => coded_pure _
  · exact coded_bind (coded_asNumber _) fun _ =>
      coded_bind (coded_foldNumbers _ _ _) fun _ => coded_pure _
  · split
    · exact coded_bind (coded_asNumber _) fun n => coded_applyNumber _ n
    · exact coded_bind (coded_asText _) fun s => coded_applyText _ s
  · exact coded_fault _

mutual

/-- An expression raises faults of a code only. -/
theorem coded_eval (vars : Variables) (e : Expr) : Coded (e.eval vars) := by
  cases e with
  | number n =>
      rw [Expr.eval]
      exact coded_finiteValue n
  | text s =>
      rw [Expr.eval]
      exact coded_ok _
  | var v =>
      rw [Expr.eval]
      exact coded_ok _
  | unary op arg =>
      rw [Expr.eval]
      exact coded_bind (coded_eval vars arg) fun v => coded_applyUnary op v
  | binary op lhs rhs =>
      rw [Expr.eval]
      exact coded_bind (coded_eval vars lhs) fun a =>
        coded_bind (coded_eval vars rhs) fun b => coded_applyBinary op a b
  | call f args =>
      rw [Expr.eval]
      exact coded_bind (coded_evalAll vars args) fun vs => coded_applyBuiltin f vs

theorem coded_evalAll (vars : Variables) (es : List Expr) : Coded (Expr.evalAll vars es) := by
  cases es with
  | nil =>
      rw [Expr.evalAll]
      exact coded_ok _
  | cons e rest =>
      rw [Expr.evalAll]
      exact coded_bind (coded_eval vars e) fun v =>
        coded_bind (coded_evalAll vars rest) fun vs => coded_pure _

end

/-! ## Statements -/

theorem coded_printText (vars : Variables) (before : String) (isOpen : Bool)
    (items : List PrintItem) : Coded (printText vars before isOpen items) := by
  induction items generalizing before isOpen with
  | nil => exact coded_ok _
  | cons item rest ih =>
      cases item with
      | expr e => exact coded_bind (coded_eval vars e) fun v => ih _ _
      | joined => exact ih _ _
      | nextZone => exact ih _ _

theorem coded_testHolds (vars : Variables) (test : Expr) : Coded (testHolds vars test) :=
  coded_bind (coded_eval vars test) fun v =>
    coded_bind (coded_asNumber v) fun _ => coded_pure _

theorem coded_assign (vars : Variables) (key : String) (v : Value) :
    Coded (vars.assign key v) := by
  refine coded_map ?_ _
  unfold Variables.stored
  split
  · split
    · split
      · split
        · exact coded_ok _
        · exact coded_fault _
      · exact coded_fault _
    · exact coded_ok _
  · exact coded_ok _

theorem raisedFault_coded (v : Value) : ∃ code, raisedFault v = Fault.ofCode code := by
  unfold raisedFault
  split
  · next code hcount => exact ⟨code, rfl⟩
  · next f hcount => exact coded_count v f hcount

/-- The flow of statements that run one after another. -/
theorem coded_andThen {o : Outcome} {k : Variables → Outcome} (ho : Coded o.flow)
    (hk : ∀ vars, Coded (k vars).flow) : Coded (o.andThen k).flow := by
  unfold Outcome.andThen
  split
  · exact hk _
  · exact ho

/-- The flow of a single fault. -/
private theorem coded_faulty {vars : Variables} {f : Fault} (h : ∃ code, f = Fault.ofCode code) :
    Coded (Outcome.faulty vars f).flow := by
  intro g hg
  cases hg
  exact h

mutual

/-- A statement raises faults of a code only. -/
theorem coded_run (vars : Variables) (s : Stmt) : Coded (s.run vars).flow := by
  cases s with
  | assign target value =>
      rw [Stmt.run]
      split
      · exact coded_ok _
      · next f h =>
          exact coded_faulty
            (coded_bind (coded_eval vars value) (fun v => coded_assign vars _ v) f h)
  | print items =>
      rw [Stmt.run]
      split
      · exact coded_ok _
      · next f h => exact coded_faulty (coded_printText vars _ _ items f h)
  | ifThen test yes =>
      rw [Stmt.run]
      split
      · exact coded_runBranch vars yes
      · exact coded_ok _
      · next f h => exact coded_faulty (coded_testHolds vars test f h)
  | ifThenElse test yes no =>
      rw [Stmt.run]
      split
      · exact coded_runBranch vars yes
      · exact coded_runBranch vars no
      · next f h => exact coded_faulty (coded_testHolds vars test f h)
  | raise code =>
      rw [Stmt.run]
      split
      · exact coded_faulty (raisedFault_coded _)
      · next f h => exact coded_faulty (coded_eval vars code f h)
  | goto line | gosub line | «return» | «end» | stop | clear | remark =>
      rw [Stmt.run]
      exact coded_ok _

theorem coded_runBranch (vars : Variables) (b : Branch) : Coded (b.run vars).flow := by
  cases b with
  | line n =>
      rw [Branch.run]
      exact coded_ok _
  | statements body =>
      rw [Branch.run]
      exact coded_runList vars body

theorem coded_runList (vars : Variables) (body : List Stmt) :
    Coded (Stmt.runList vars body).flow := by
  cases body with
  | nil =>
      rw [Stmt.runList]
      exact coded_ok _
  | cons s rest =>
      rw [Stmt.runList]
      exact coded_andThen (coded_run vars s) fun vars' => coded_runList vars' rest

end

/-! ## Steps of a program -/

namespace Process

/-- A jump that misses its line has no place either. -/
theorem target_fault_line {program : Program} {line : Nat} {f : Fault}
    (h : target program line = .error f) : f.line = none := by
  unfold target at h
  split at h
  · cases h
  · cases h
    rfl

theorem follow_fault_line {program : Program} {number : Nat} {p q : Process} {flow : Flow}
    {f : Fault} (h : p.follow program number flow = (q, .fails f)) : f.line = none := by
  unfold follow at h
  split at h
  · cases h
  · split at h
    · cases h
    · next g hg =>
        cases h
        exact target_fault_line hg
  · split at h
    · cases h
    · next g hg =>
        cases h
        exact target_fault_line hg
  · split at h
    · cases h
    · cases h
      rfl
  · cases h

/-- A fault of a program names no line. -/
theorem step_fault_line {program : Program} {line : SourceLine} {p q : Process} {f : Fault}
    (h : p.step program line = (q, .fails f)) : f.line = none := by
  unfold step at h
  split at h
  · cases h
  · next s hs =>
      dsimp only at h
      split at h
      · exact follow_fault_line h
      · next g hg =>
          cases h
          obtain ⟨code, rfl⟩ := coded_run p.vars s f hg
          rfl

end Process

end LineBasic
