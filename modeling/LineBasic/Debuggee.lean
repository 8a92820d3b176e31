import LineBasic.StopRequest
import LineBasic.Variables

/-!
# What the debugger needs of a program

The debugger works with any runtime that can be asked to stop, has variables and calls, and prints.
A runtime calls the debugger before each line that it runs, in the order in which it runs them.
-/

namespace LineBasic

/-- A runtime that a debugger can be attached to. -/
class Debuggee (ρ : Type) where
  /-- Asks for a stop. A pending request of higher priority is kept. -/
  requestStop : ρ → StopRequest → ρ
  /-- Drops a pending request. -/
  clearStop : ρ → ρ
  /-- Sends faults to the debugger, or no longer. -/
  setErrorTrap : ρ → Bool → ρ
  /-- The lines of the pending subroutine calls, innermost first. -/
  calls : ρ → List LineId
  vars : ρ → Variables
  setVariables : ρ → Variables → ρ
  /-- Prints what a snippet prints. -/
  print : ρ → String → ρ

namespace Debuggee

variable {ρ : Type} [Debuggee ρ]

/-- The number of pending subroutine calls. -/
def depth (r : ρ) : Nat := (calls r).length

end Debuggee

end LineBasic
