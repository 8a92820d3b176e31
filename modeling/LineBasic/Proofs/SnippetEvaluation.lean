import LineBasic.Host
import LineBasic.Proofs.SnippetCompilation
import LineBasic.Proofs.StatementOrder

/-!
# What an evaluation gives and leaves

The value of an expression is found in the variables of the paused program itself: it is assigned to
a variable with a name of its own, read back and taken out.  That gives what the interpreter of
expressions gives, value or fault.

Two things are left over.  The name is one that a program may use, so a variable of the program under
it is gone behind an evaluation.  And a text that closes the bracket around it is accepted although
it is no expression, and the statements behind its bracket run.

## Main definitions

* `BreaksOut`: a text is compiled to more than its own expression.

## Main results

* `evaluate_complete`: the answer to a text that is one expression.
* `evaluate_agrees`: its result is that of the interpreter.
* `refused_unless_breaksOut`: other texts are refused and change nothing, unless they break out.
* `trace_of_evaluation`: what an evaluation changes in the program.
-/

namespace LineBasic

namespace Snippet

variable {text : String} {e : Expr} {more : List Stmt}

/-! ## The variable of the result -/

/-- The storage key of the variable that takes a value of a type. -/
def resultKey (type : ValueType) : String := storageKey (resultNameOf type)

@[simp] theorem isIntegerKey_resultKey (type : ValueType) : isIntegerKey (resultKey type) = false := by
  cases type <;> decide

/-- A value is kept as it is. -/
@[simp] theorem assign_resultKey (vars : Variables) (type : ValueType) (v : Value) :
    vars.assign (resultKey type) v = .ok (vars.insert (resultKey type) v) := by
  unfold Variables.assign Variables.stored
  cases v with
  | number n => simp [Except.map]
  | text s => rfl

/-! ## A program behind a snippet -/

/-- A snippet leaves the program as it was if it leaves the variables and prints nothing. -/
theorem settle_eq_self_iff {α : Type} {m : Machine} {a : Answer α} :
    (Debugger.settle m a).2 = m ↔ a.vars = m.process.vars ∧ a.printed = "" := by
  constructor
  · intro same
    refine ⟨congrArg (fun m' : Machine => m'.process.vars) same, ?_⟩
    exact String.append_eq_left_iff.1 (congrArg (fun m' : Machine => m'.process.output) same)
  · rintro ⟨hvars, hprinted⟩
    show ({ m with process := { m.process with
      vars := a.vars, output := m.process.output ++ a.printed } } : Machine) = m
    rw [hvars, hprinted, String.append_empty]

@[simp] theorem settle_refused {α : Type} (m : Machine) (err : EvalError) :
    Debugger.settle m (.refused m.process.vars err : Answer α) = (.error err, m) :=
  Prod.ext rfl (settle_eq_self_iff.2 ⟨rfl, rfl⟩)

/-! ## One expression -/

/-- The assignment puts the value of the expression under the key of its type, or fails with the
fault of the expression. -/
theorem run_assignment (vars : Variables) (e : Expr) :
    Stmt.run vars (.assign (Variable.ofName (resultNameOf e.type)) e) =
      match e.eval vars with
      | .ok v => .quiet (vars.insert (resultKey e.type) v) .next
      | .error f => .faulty vars f := by
  rw [Stmt.run]
  cases e.eval vars with
  | error f => rfl
  | ok v =>
      have hassign := assign_resultKey vars e.type v
      show (match vars.assign (resultKey e.type) v with | .ok vars' => _ | .error f => _) = _
      rw [hassign]

/-- The answer to a text that is one expression, with all quotations closed. -/
theorem evaluate_complete (complete : IsExpression text e) (closed : QuotationsClosed text)
    (vars : Variables) :
    evaluate text vars =
      ⟨vars.erase (resultKey e.type), "", (e.eval vars).mapError .fault⟩ := by
  unfold evaluate
  rw [compileExpression_complete complete closed]
  dsimp only
  rw [runList_single, run_assignment]
  cases heval : e.eval vars with
  | error f => rfl
  | ok v =>
      show (⟨(vars.insert (resultKey e.type) v).erase (resultKey e.type), "",
        .ok (((vars.insert (resultKey e.type) v).find? (resultKey e.type)).getD _)⟩ :
          Answer Value) = _
      simp [Except.mapError]

/-- A text that is one expression, with a quotation that is not closed, is refused. -/
theorem evaluate_open (complete : IsExpression text e) (notClosed : ¬ QuotationsClosed text)
    (vars : Variables) : ∃ err, evaluate text vars = .refused vars (.compile err) := by
  obtain ⟨err, hcompile⟩ := compileExpression_open complete notClosed
  refine ⟨err, ?_⟩
  unfold evaluate
  rw [hcompile]

/--
A text whose tokens form one expression, with every quotation closed, is compiled to the assignment
of that expression, whatever its type.  On every store its evaluation gives the value that the
interpreter of expressions gives there, or its fault.
-/
theorem evaluate_agrees {text : String} {ts : List Token} {e : Expr}
    (tokens : tokenize text = .ok ts) (closed : ∀ t ∈ ts, t.IsClosed text.toList)
    (complete : Reads (Expr.parse text.length ts) e []) :
    compileExpression text = .ok (resultNameOf e.type,
        ⟨some 1, [.assign (Variable.ofName (resultNameOf e.type)) e]⟩) ∧
      ∀ vars, (evaluate text vars).result = (e.eval vars).mapError .fault := by
  have hcomplete : IsExpression text e := ⟨ts, tokens, complete⟩
  have hclosed : QuotationsClosed text := by
    intro ts' htokens
    cases tokens.symm.trans htokens
    exact closed
  refine ⟨compileExpression_complete hcomplete hclosed, fun vars => ?_⟩
  rw [evaluate_complete hcomplete hclosed]

/-- The tokens of `"x)"+n$`. -/
def joinTokens : List Token := [⟨.text "x)", 0⟩, ⟨.sign .plus, 4⟩, ⟨.name "n$", 5⟩]

/-- The expression of `"x)"+n$`. -/
def joinExpr : Expr := .binary .add (.text "x)") (.var ⟨"n$", .text⟩)

/-- A bracket in a quotation closes nothing, and the value is a text. -/
theorem evaluate_agrees_join :
    tokenize "\"x)\"+n$" = .ok joinTokens ∧ (∀ t ∈ joinTokens, t.IsClosed "\"x)\"+n$".toList) ∧
      Reads (Expr.parse 7 joinTokens) joinExpr [] ∧
      compileExpression "\"x)\"+n$" = .ok (resultTextName,
        ⟨some 1, [.assign (Variable.ofName resultTextName) joinExpr]⟩) ∧
      ∀ vars, (evaluate "\"x)\"+n$" vars).result = (joinExpr.eval vars).mapError .fault := by
  have tokens : tokenize "\"x)\"+n$" = .ok joinTokens := by with_unfolding_all rfl
  have closed : ∀ t ∈ joinTokens, t.IsClosed "\"x)\"+n$".toList := by decide
  have complete : Reads (Expr.parse 7 joinTokens) joinExpr [] := by
    have hparse : Expr.parse 7 joinTokens = .ok ⟨joinExpr, [], by decide⟩ := by
      with_unfolding_all rfl
    rw [hparse]
    exact .ok ⟨rfl, rfl⟩
  exact ⟨tokens, closed, complete, evaluate_agrees tokens closed complete⟩

/-! ## Other texts -/

/-- A text closes the bracket around it and is compiled: to the assignment of an expression, and to
the statements that stand behind the brackets. -/
structure BreaksOut (text : String) (e : Expr) (more : List Stmt) : Prop where
  closes : ClosesBracket text
  compiled : compileExpression text = .ok (resultNameOf e.type,
    ⟨some 1, .assign (Variable.ofName (resultNameOf e.type)) e :: more⟩)

/-- What is compiled without being an expression breaks out. -/
theorem breaksOut_of_compiled (incomplete : ∀ e, ¬ IsExpression text e) {name : String}
    {line : Line} (compiled : compileExpression text = .ok (name, line)) : ∃ e more, BreaksOut text e more := by
  obtain ⟨type, rfl, hline⟩ := compile_of_compileExpression compiled
  obtain ⟨⟨⟨e, complete⟩, -⟩ | closes, e, more, rfl, rfl⟩ := accepted hline
  · exact absurd complete (incomplete _)
  · exact ⟨e, more, closes, compiled⟩

/-- The runtime after the test of a condition is the one after the evaluation of its text. -/
theorem evaluatorTest_snd (text : String) (m : Machine) :
    (Debugger.evaluatorTest text m).2 = (Debugger.settle m (evaluate text m.process.vars)).2 := rfl

/-- A text that breaks out runs the assignment and all that stands behind the brackets. -/
theorem evaluate_breaksOut (breaksOut : BreaksOut text e more) (vars : Variables) :
    let o := Stmt.runList vars (.assign (Variable.ofName (resultNameOf e.type)) e :: more)
    evaluate text vars = ⟨o.vars.erase (resultKey e.type), o.printed,
      (settled o.flow).map fun _ => (o.vars.find? (resultKey e.type)).getD (Value.ofType .number)⟩ := by
  unfold evaluate
  rw [breaksOut.compiled]
  rfl

/-- What runs has no mistake in its form. -/
theorem result_breaksOut (breaksOut : BreaksOut text e more) (vars : Variables)
    (err : CompileError) : (evaluate text vars).result ≠ .error (.compile err) := by
  rw [evaluate_breaksOut breaksOut]
  dsimp only
  unfold settled
  split <;> nofun

/--
A text that is no expression is refused with a mistake in its form, and the program is left as it was,
exactly if the text does not break out of the brackets around it.  If it does, the statements behind
the brackets run on the program.
-/
theorem refused_unless_breaksOut {text : String} (incomplete : ∀ e, ¬ IsExpression text e)
    (m : Machine) :
    ((∃ err, evaluate text m.process.vars = .refused m.process.vars (.compile err) ∧
        Debugger.evaluatorTest text m = (.error (.compile err), m)) ↔
      ∀ e more, ¬ BreaksOut text e more) ∧
    ∀ e more, BreaksOut text e more →
      let o := Stmt.runList m.process.vars
        (.assign (Variable.ofName (resultNameOf e.type)) e :: more)
      (Debugger.evaluatorTest text m).2 =
        Debuggee.print (Debuggee.setVariables m (o.vars.erase (resultKey e.type))) o.printed := by
  refine ⟨⟨?_, ?_⟩, ?_⟩
  · rintro ⟨err, hrefused, -⟩ e more breaksOut
    exact result_breaksOut breaksOut m.process.vars err (congrArg Answer.result hrefused)
  · intro keeps
    cases hcompile : compileExpression text with
    | ok compiled =>
        obtain ⟨e, more, breaksOut⟩ := breaksOut_of_compiled incomplete hcompile
        exact absurd breaksOut (keeps e more)
    | error err =>
        have hrefused : evaluate text m.process.vars = .refused m.process.vars (.compile err) := by
          unfold evaluate
          rw [hcompile]
        refine ⟨err, hrefused, ?_⟩
        show ((Debugger.settle m (evaluate text m.process.vars)).1.map Value.isTruthy,
          (Debugger.settle m (evaluate text m.process.vars)).2) = _
        rw [hrefused, settle_refused]
        rfl
  · intro e more breaksOut
    rw [evaluatorTest_snd, evaluate_breaksOut breaksOut]
    rfl

/-- A text that closes the bracket and opens one at its end. -/
def escapingText : String := "1): print 2: x=(3"

/-- The tokens of this text. -/
def escapingTokens : List Token := [
  ⟨.number 1, 0⟩, ⟨.sign .rightParen, 1⟩, ⟨.sign .colon, 2⟩, ⟨.keyword .print, 4⟩, ⟨.number 2, 10⟩,
  ⟨.sign .colon, 11⟩, ⟨.name "x", 13⟩, ⟨.sign .eq, 14⟩, ⟨.sign .leftParen, 15⟩, ⟨.number 3, 16⟩]

/-- Between the bracket that it closes and the one that it opens a `PRINT` runs. -/
theorem refused_unless_breaksOut_printing :
    (∀ e, ¬ IsExpression escapingText e) ∧
      BreaksOut escapingText (.number 1) [.print [.expr (.number 2)],
        .assign ⟨"xR", .number⟩ (.number 3)] ∧
      (Debugger.evaluatorTest escapingText Machine.initial).2.process.output = " 2 \n" := by
  have tokens : tokenize escapingText = .ok escapingTokens := by with_unfolding_all rfl
  have hparse : Expr.parse escapingText.length escapingTokens =
      .ok ⟨.number 1, escapingTokens.tail, by decide⟩ := by
    with_unfolding_all rfl
  have closes : ClosesBracket escapingText := by
    refine ⟨_, .number 1, ⟨.sign .rightParen, 1⟩, escapingTokens.tail.tail, tokens, rfl, ?_⟩
    rw [hparse]
    exact .ok ⟨rfl, rfl⟩
  have compiled : compileExpression escapingText = .ok (resultName,
      ⟨some 1, [.assign (Variable.ofName resultName) (.number 1), .print [.expr (.number 2)],
        .assign ⟨"xR", .number⟩ (.number 3)]⟩) := by
    with_unfolding_all rfl
  have incomplete : ∀ e, ¬ IsExpression escapingText e :=
    fun e complete => not_closesBracket complete closes
  have breaksOut : BreaksOut escapingText (.number 1) _ := ⟨closes, compiled⟩
  have hmachine := (refused_unless_breaksOut incomplete Machine.initial).2 _ _ breaksOut
  refine ⟨incomplete, breaksOut, ?_⟩
  rw [hmachine]
  with_unfolding_all rfl

/-! ## What is left in the program -/

/--
Behind the evaluation of an expression, or a condition tested by it, the program has printed nothing
and lacks the variable that had the name of the result.  It is as before exactly if there was none.
An expression with a quotation that is not closed is refused, and leaves the program as it was.
-/
theorem trace_of_evaluation {text : String} {e : Expr} (complete : IsExpression text e)
    (m : Machine) :
    (Debugger.settle m (evaluate text m.process.vars)).2 = (Debugger.evaluatorTest text m).2 ∧
      (QuotationsClosed text → (Debugger.evaluatorTest text m).2 =
        Debuggee.setVariables m (m.process.vars.erase (resultKey e.type))) ∧
      (¬ QuotationsClosed text → (Debugger.evaluatorTest text m).2 = m) ∧
      ((Debugger.evaluatorTest text m).2 = m ↔
        (QuotationsClosed text → m.process.vars.find? (resultKey e.type) = none)) := by
  rw [evaluatorTest_snd]
  have hopen (notClosed : ¬ QuotationsClosed text) :
      (Debugger.settle m (evaluate text m.process.vars)).2 = m := by
    obtain ⟨err, hrefused⟩ := evaluate_open complete notClosed m.process.vars
    rw [hrefused, settle_refused]
  refine ⟨rfl, fun closed => ?_, hopen, fun same closed => ?_, fun free => ?_⟩
  · rw [evaluate_complete complete closed]
    show ({ m with process := { m.process with
      vars := _, output := m.process.output ++ "" } } : Machine) = _
    rw [String.append_empty]
    rfl
  · rw [evaluate_complete complete closed, settle_eq_self_iff] at same
    exact Table.erase_eq_self_iff.1 same.1
  · by_cases closed : QuotationsClosed text
    · rw [evaluate_complete complete closed, settle_eq_self_iff]
      exact ⟨Table.erase_eq_self_iff.2 (free closed), rfl⟩
    · exact hopen closed

/-- A program with a variable under the name of the result. -/
def namesake : Machine :=
  Debuggee.setVariables Machine.initial ((∅ : Variables).insert "eval_resultR" (.number 5))

/-- The variable is gone once a condition has been tested. -/
theorem trace_of_evaluation_namesake :
    IsExpression "1" (.number 1) ∧ (Debugger.evaluatorTest "1" namesake).2 = Machine.initial ∧
      (Debugger.evaluatorTest "1" namesake).2 ≠ namesake := by
  have tokens : tokenize "1" = .ok [⟨.number 1, 0⟩] := by with_unfolding_all rfl
  have complete : IsExpression "1" (.number 1) := by
    have hparse : Expr.parse 1 [⟨.number 1, 0⟩] = .ok ⟨.number 1, [], by decide⟩ := by
      with_unfolding_all rfl
    refine ⟨_, tokens, ?_⟩
    rw [show "1".length = 1 from rfl, hparse]
    exact .ok ⟨rfl, rfl⟩
  have closed : QuotationsClosed "1" := by
    intro ts hts
    cases tokens.symm.trans hts
    decide
  obtain ⟨-, herased, -, hsame⟩ := trace_of_evaluation complete namesake
  refine ⟨complete, (herased closed).trans (by with_unfolding_all rfl), fun same => ?_⟩
  have hfree : namesake.process.vars.find? "eval_resultR" = none := hsame.1 same closed
  cases hfree

end Snippet

end LineBasic
