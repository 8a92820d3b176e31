import LineBasic.Proofs.LineHook

/-!
# Histories of a debugger

A debugger has two callers: a front end, which gives commands, edits breakpoints and listens, and the
runtime of a program, which calls before each line and for each fault.  The debugger relies on
neither to keep to an order.  A history is therefore any list of operations, and between them the
runtime may change in any way, since the program runs.

What holds behind every history is proved by operation, so this module lists the operations.

## Main definitions

* `Operation`: whatever can happen to a debugger.
* `Debugger.perform`: the debugger behind a history.

## Main results

* `perform_induction`: what every operation keeps holds behind every history.
-/

namespace LineBasic

/-- A call to a debugger, or a change of the runtime that it is attached to. -/
inductive Operation (ρ : Type) where
  | start
  | reset
  | detach
  | pause
  | resume
  | step (mode : StepMode)
  | onLine (line : LineId)
  | handleError (f : Fault)
  | setBreakOnError (on : Bool)
  | setSpeed (speed : Nat)
  | addBreakpoint (line : Nat) (condition : Option String)
  | removeBreakpoint (line : Nat)
  | toggleBreakpoint (line : Nat)
  | clearBreakpoints
  | importBreakpoints (entries : List BreakpointEntry)
  | setConditionTest (test : Option (ConditionTest ρ))
  | setEvaluator (on : Bool)
  | useEvaluatorConditions
  | setSourceMap (map : SourceMap)
  | eval (expression : String)
  | exec (statement : String)
  | subscribe
  | unsubscribe (id : ListenerId)
  /-- The program runs, or its host acts on it. -/
  | act (change : ρ → ρ)

variable {ρ : Type} [Debuggee ρ]

/-- The debugger behind an operation. -/
@[simp] def Operation.apply (d : Debugger ρ) : Operation ρ → Debugger ρ
  | start => d.start
  | reset => d.reset
  | detach => d.detach
  | pause => d.pause
  | resume => d.resume
  | step mode => d.beginStep mode
  | onLine line => d.onLine line
  | handleError f => (d.handleError f).2
  | setBreakOnError on => d.setBreakOnError on
  | setSpeed speed => d.setSpeed speed
  | addBreakpoint line condition => (d.addBreakpoint line condition).2
  | removeBreakpoint line => (d.removeBreakpoint line).2
  | toggleBreakpoint line => (d.toggleBreakpoint line).2
  | clearBreakpoints => d.clearBreakpoints
  | importBreakpoints entries => d.importBreakpoints entries
  | setConditionTest test => { d with conditionTest := test }
  | setEvaluator on => { d with hasEvaluator := on }
  | useEvaluatorConditions => d.useEvaluatorConditions
  | setSourceMap map => { d with sourceMap := map }
  | eval expression => (d.eval expression).2
  | exec statement => (d.exec statement).2
  | subscribe => d.subscribe.2
  | unsubscribe id => (d.unsubscribe id).2
  | act change => { d with runtime := change d.runtime }

namespace Debugger

/-- The debugger behind a history. -/
def perform (d : Debugger ρ) (ops : List (Operation ρ)) : Debugger ρ := ops.foldl Operation.apply d

variable {d : Debugger ρ} {ops ops' : List (Operation ρ)} {op : Operation ρ}

@[simp] theorem perform_nil : d.perform [] = d := rfl

@[simp] theorem perform_cons : d.perform (op :: ops) = (op.apply d).perform ops := rfl

@[simp] theorem perform_append : d.perform (ops ++ ops') = (d.perform ops).perform ops' :=
  List.foldl_append

/-- What every operation keeps holds behind every history. -/
theorem perform_induction {P : Debugger ρ → Prop}
    (hstep : ∀ d (op : Operation ρ), P d → P (op.apply d))
    (hd : P d) (ops : List (Operation ρ)) : P (d.perform ops) := by
  induction ops generalizing d with
  | nil => exact hd
  | cons op ops ih => exact ih (hstep d op hd)

end Debugger

end LineBasic
