import LineBasic.FirstWord
import LineBasic.Line
import LineBasic.Stmt.Run

/-!
# Snippets for a paused program

At the console, and in the condition of a breakpoint, a text is compiled when it is needed and runs
on the variables of the paused program. An expression is assigned to a variable of its own, which is
then read and removed; a statement runs for its effects. Neither may move control.

## Main definitions

* `EvalError`: why a snippet has no result.
* `Answer`: the result of a snippet, with the variables and the output it leaves.
* `Snippet.evaluate`, `Snippet.execute`: an expression, and a statement.
-/

namespace LineBasic

/-- Why a snippet has no result. -/
inductive EvalError where
  | compile (e : CompileError)
  | fault (f : Fault)
  /-- The snippet would move control. -/
  | notAllowed
  | noEvaluator
  /-- The program is not paused, so nothing can be done to it. -/
  | notPaused (purpose : String)
deriving DecidableEq, Repr

/-- The wording of an error. -/
def EvalError.message : EvalError → String
  | compile e => e.message
  | fault f => f.message
  | notAllowed => "Command not allowed in console"
  | noEvaluator => "No evaluator attached"
  | notPaused purpose => "Must be paused to " ++ purpose

/-- The result of a snippet, with the variables it leaves and what it printed. -/
structure Answer (α : Type) where
  vars : Variables
  printed : String
  result : Except EvalError α

/-- A snippet that is refused before it runs. -/
def Answer.refused {α : Type} (vars : Variables) (e : EvalError) : Answer α :=
  ⟨vars, "", .error e⟩

namespace Snippet

/-- The name of the variable that takes the value of an expression. -/
def resultName : String := "eval.result"

/-- The name of the variable that takes the value of an expression which is a text. -/
def resultTextName : String := "eval.result$"

/-- The line that assigns an expression to a variable. -/
def assignment (name expression : String) : String :=
  "1 let " ++ name ++ "=(" ++ expression ++ ")"

/-- The compiled assignment of an expression, with the name of its variable: one for a number, or,
where the types do not fit, one for a text. -/
def compileExpression (expression : String) : Except CompileError (String × Line) :=
  match Line.compile (assignment resultName expression) with
  | .ok line => .ok (resultName, line)
  | .error (.typeMismatch _) =>
      (Line.compile (assignment resultTextName expression)).map fun line => (resultTextName, line)
  | .error e => .error e

/-- The result of statements that must not move control. -/
def settled (flow : Evaluated Flow) : Except EvalError Unit :=
  match flow with
  | .ok .next => .ok ()
  | .ok _ => .error .notAllowed
  | .error f => .error (.fault f)

/-- The value of an expression. -/
def evaluate (expression : String) (vars : Variables) : Answer Value :=
  match compileExpression expression with
  | .error e => .refused vars (.compile e)
  | .ok (name, line) =>
      let key := storageKey name
      let outcome := Stmt.runList vars line.statements
      ⟨outcome.vars.erase key, outcome.printed,
        (settled outcome.flow).map fun _ =>
          (outcome.vars.find? key).getD (Value.ofType .number)⟩

/-- Runs a statement for its effects. -/
def execute (statement : String) (vars : Variables) : Answer Unit :=
  if isBlockedInConsole statement then .refused vars .notAllowed
  else match Line.compile ("1 " ++ statement) with
    | .error e => .refused vars (.compile e)
    | .ok line =>
        let outcome := Stmt.runList vars line.statements
        ⟨outcome.vars, outcome.printed, settled outcome.flow⟩

end Snippet

end LineBasic
