/-!
# Speeds

A program runs at a speed from 0 to 100. At 100 nothing holds it up, at 0 it pauses at every line,
and in between it runs a number of lines and then waits: the slower, the fewer lines and the longer
the wait.
-/

namespace LineBasic

/-- Full speed. -/
def maxSpeed : Nat := 100

/-- How a program is held up: after how many lines, if at all, and for how many milliseconds. -/
structure Pace where
  chunk : Option Nat
  delay : Nat
deriving DecidableEq, Repr

/-- The pace of a speed; a speed above the highest counts as the highest. -/
def Pace.ofSpeed (speed : Nat) : Pace :=
  if maxSpeed ≤ speed then ⟨none, 0⟩
  else if speed = 0 then ⟨some 1, 0⟩
  else ⟨some (speed / 5 + 1), (maxSpeed - speed) * 2⟩

end LineBasic
