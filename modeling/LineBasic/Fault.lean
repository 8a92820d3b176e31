import LineBasic.LineId

/-!
# Faults of a running program

A statement that cannot go on raises a fault. Its code follows Locomotive BASIC, and so does the
message of each code, which `ERROR n` can raise as well.

## Main definitions

* `FaultKind`: the causes of the interpreter itself.
* `Fault`: a raised fault, with the line it belongs to once that is known.
-/

namespace LineBasic

/-- The messages of the codes from 1 on. -/
def faultMessages : List String := [
  "Unexpected NEXT", "Syntax error", "Unexpected RETURN", "DATA exhausted", "Improper argument",
  "Overflow", "Memory full", "Line does not exist", "Subscript out of range",
  "Array already dimensioned", "Division by zero", "Invalid direct command", "Type mismatch",
  "String space full", "String too long", "String expression too complex", "Cannot CONTinue",
  "Unknown user function", "RESUME missing", "Unexpected RESUME", "Direct command found",
  "Operand missing", "Line too long", "EOF met", "File type error", "NEXT missing",
  "File already open", "Unknown command", "WEND missing", "Unexpected WEND", "File not open",
  "Broken"]

/-- The message of a fault code. -/
def faultMessage : Nat → String
  | 0 => "Unknown error"
  | code + 1 => (faultMessages[code]?).getD "Unknown error"

/-- Why the interpreter itself raises a fault. -/
inductive FaultKind where
  | unexpectedReturn
  | improperArgument
  | overflow
  | lineDoesNotExist
  | divisionByZero
  | typeMismatch
  | stringTooLong
deriving DecidableEq, Repr

/-- The code of a cause. -/
def FaultKind.code : FaultKind → Nat
  | unexpectedReturn => 3
  | improperArgument => 5
  | overflow => 6
  | lineDoesNotExist => 8
  | divisionByZero => 11
  | typeMismatch => 13
  | stringTooLong => 15

/-- A raised fault. A runtime may know its place in the line, and may have no code for it. -/
structure Fault where
  code : Option Nat
  message : String
  line : Option LineId := none
  info : String := ""
  pos : Option Nat := none
  len : Option Nat := none
deriving DecidableEq, Repr

namespace Fault

/-- The fault of a code. -/
def ofCode (code : Nat) : Fault := { code := some code, message := faultMessage code }

/-- The fault of a cause. -/
def ofKind (kind : FaultKind) : Fault := ofCode kind.code

/-- Says which line raised the fault, unless that is known already. -/
def atLine (f : Fault) (line : LineId) : Fault := { f with line := some (f.line.getD line) }

/-- Adds what the message is about. -/
def withInfo (f : Fault) (info : String) : Fault := { f with info := info }

end Fault

end LineBasic
