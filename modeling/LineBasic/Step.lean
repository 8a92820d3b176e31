import LineBasic.LineId

/-!
# Steps and the call stack

A step runs a program for a short way: to the next line, to the next line of the same subroutine, or
out of it. How far that is depends on the depth of subroutine calls alone.
-/

namespace LineBasic

/-- How far a step goes. -/
inductive StepMode where
  /-- To the next line, also into a subroutine. -/
  | intoCalls
  /-- To the next line of the same subroutine, over the calls in between. -/
  | overCalls
  /-- Out of the subroutine. -/
  | outOfCall
deriving DecidableEq, Repr

/-- Whether a step that began at call depth `reference` is over at `depth`. -/
def StepMode.isOver (mode : StepMode) (depth reference : Nat) : Bool :=
  match mode with
  | intoCalls => true
  | overCalls => depth ≤ reference
  | outOfCall => depth < reference

/-- A line in the call stack, with the number of calls around it. -/
structure StackFrame where
  line : LineId
  depth : Nat
deriving DecidableEq, Repr

/-- A frame as JSON. -/
def StackFrame.toJson (frame : StackFrame) : Json :=
  Json.ofFields [("returnLabel", frame.line.toJson), ("depth", Json.ofNat frame.depth)]

/--
The call stack: the current line, then the lines of the pending calls, which are given innermost
first.
-/
def callStack (current : LineId) (calls : List LineId) : List StackFrame :=
  ⟨current, calls.length⟩ ::
    match calls with
    | [] => []
    | caller :: rest => callStack caller rest

end LineBasic
