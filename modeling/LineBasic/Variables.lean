import LineBasic.Fault
import LineBasic.Number.Rounding
import LineBasic.Table
import LineBasic.Value
import LineBasic.Variables.Name

/-!
# The variable store

The values of a program's variables by storage key, in key order. Reading a variable that was never
assigned gives zero or the empty text. An assignment to an integer variable rounds, and faults if
the result does not fit in sixteen bits.
-/

namespace LineBasic

/-- The variables that have a value, by storage key. -/
abbrev Variables := Table String Value

namespace Variables

/-- The value of a variable, or that of its type if it has none. -/
def valueOf (vars : Variables) (key : String) (type : ValueType) : Value :=
  (vars.find? key).getD (Value.ofType type)

/-- The integers that an integer variable holds. -/
def isInteger16 (k : Int) : Bool := -32768 ≤ k ∧ k ≤ 32767

/-- The value as a variable keeps it: an integer variable rounds its number. -/
def stored (key : String) (value : Value) : Except Fault Value :=
  match value with
  | .number n =>
      if isIntegerKey key then
        match Number.nearest? n with
        | some k =>
            if isInteger16 k then .ok (.number (Number.round n)) else .error (.ofKind .overflow)
        | none => .error (.ofKind .overflow)
      else .ok value
  | .text _ => .ok value

/-- Assigns a value to a variable. -/
def assign (vars : Variables) (key : String) (value : Value) : Except Fault Variables :=
  (stored key value).map fun v => vars.insert key v

end Variables

end LineBasic
