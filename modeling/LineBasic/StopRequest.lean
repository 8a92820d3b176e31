/-!
# Stop requests

A program under the debugger stops when it is asked to, at its next line. A request says why, and
carries a priority: while one is pending, a request of lower priority is dropped.
-/

namespace LineBasic

/-- Why a program is asked to stop. -/
inductive StopReason where
  /-- It waits for a command. -/
  | pause
  /-- It goes on after the delay of the selected speed. -/
  | throttle
deriving DecidableEq, Repr

/-- A request to stop. -/
structure StopRequest where
  reason : StopReason
  priority : Nat
deriving DecidableEq, Repr

namespace StopRequest

/-- The request for a pause. -/
def pause : StopRequest := ⟨.pause, 70⟩

/-- The request of a throttled program, which gives way to any pause. -/
def throttle : StopRequest := ⟨.throttle, 20⟩

/-- The request that is pending after a further one. -/
def merge (pending : Option StopRequest) (request : StopRequest) : StopRequest :=
  match pending with
  | some p => if p.priority ≤ request.priority then request else p
  | none => request

end StopRequest

end LineBasic
