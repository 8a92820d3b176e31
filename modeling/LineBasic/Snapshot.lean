import LineBasic.Fault
import LineBasic.Json
import LineBasic.Number.Reading
import LineBasic.Variables

/-!
# Snapshots of a debugged program

What the debugger shows of a program at one moment: the line, the state, the pending calls, the
variables and the error it stopped on.
-/

namespace LineBasic

/-- What the debugger does with the program. -/
inductive DebugState where
  | idle
  | running
  | paused
  | stepping
deriving DecidableEq, Repr

/-- The name of a state. -/
def DebugState.name : DebugState → String
  | idle => "idle"
  | running => "running"
  | paused => "paused"
  | stepping => "stepping"

/-- An error that stopped the program. A fault without a code has the code -1. -/
structure ErrorInfo where
  code : Int
  message : String
  line : LineId
  info : String
  pos : Option Nat
  len : Option Nat
deriving DecidableEq, Repr

/-- The error of a fault on a line. -/
def ErrorInfo.ofFault (f : Fault) (line : LineId) : ErrorInfo :=
  ⟨(f.code.map Int.ofNat).getD (-1), f.message, line, f.info, f.pos, f.len⟩

/-- A program at one moment. Pending calls come innermost first. -/
structure Snapshot where
  line : LineId
  state : DebugState
  calls : List LineId
  vars : Variables
  error : Option ErrorInfo

/-! ## As JSON -/

/-- A value as JSON. -/
def Value.toJson : Value → Json
  | number n => Json.ofFloat n
  | text s => Json.ofString s

/-- The number that a JSON number denotes; none if it is beyond the range of doubles. -/
def numberOfDigits? (digits : String) : Option Float :=
  (Number.signedNumeral? digits.toList).filter Float.isFinite

/-- The value that a JSON value is: a finite number, or a text with content. -/
def Value.ofJson? : Json → Option Value
  | .number digits => (numberOfDigits? digits).map number
  | .text content => content.map text
  | _ => none

/-- Variables as JSON, by storage key. -/
def Variables.toJson (vars : Variables) : Json :=
  Json.ofFields (vars.toList.map fun (key, value) => (key, value.toJson))

/-- An error as JSON; its place in the line only if it is known. -/
def ErrorInfo.toJson (e : ErrorInfo) : Json :=
  Json.ofFields <|
    [("code", Json.ofInt e.code), ("message", Json.ofString e.message), ("line", e.line.toJson),
      ("info", Json.ofString e.info)] ++
    Json.optionalField "pos" (e.pos.map Json.ofNat) ++
    Json.optionalField "len" (e.len.map Json.ofNat)

/-- A snapshot as JSON; the error only if there is one. -/
def Snapshot.toJson (s : Snapshot) : Json :=
  Json.ofFields <|
    [("line", s.line.toJson), ("state", Json.ofString s.state.name),
      ("gosubStack", .array (s.calls.map LineId.toJson)), ("variables", s.vars.toJson)] ++
    Json.optionalField "error" (s.error.map ErrorInfo.toJson)

end LineBasic
