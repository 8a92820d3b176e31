import LineBasic.Debugger
import LineBasic.FileError

/-!
# Settings

The settings of a session come from a JSON document, in which every field may be missing, and are
overruled by the command line.
-/

namespace LineBasic

/-- The settings of a session. -/
structure Settings where
  /-- Above the highest speed it counts as the highest. -/
  speed : Nat := maxSpeed
  breakOnError : Bool := false
  stopOnEntry : Bool := false
  /-- The file that breakpoints are kept in. -/
  breakpointsFile : Option String := none
deriving DecidableEq, Repr

namespace Settings

/-- Speeds in documents are below this bound. -/
def speedBound : Nat := 256

/-- The settings that a JSON value is. -/
def ofJson? (j : Json) : Option Settings := do
  match ← Json.record? ["speed", "breakOnError", "stopOnEntry", "breakpointsFile"] j with
  | [speed, breakOnError, stopOnEntry, breakpointsFile] =>
      let speed ← Json.defaulted? (Json.natural? speedBound) maxSpeed speed
      let breakOnError ← Json.defaulted? Json.bool? false breakOnError
      let stopOnEntry ← Json.defaulted? Json.bool? false stopOnEntry
      let breakpointsFile ← Json.optional? Json.string? breakpointsFile
      return ⟨speed, breakOnError, stopOnEntry, breakpointsFile⟩
  | _ => none

/-- The settings that a text lists. -/
def read? (text : String) : Option Settings := do ofJson? (← Json.read text)

/-- The settings as JSON. -/
def toJson (s : Settings) : Json :=
  Json.ofFields [
    ("speed", Json.ofNat s.speed), ("breakOnError", Json.bool s.breakOnError),
    ("stopOnEntry", Json.bool s.stopOnEntry),
    ("breakpointsFile", (s.breakpointsFile.map Json.ofString).getD .null)]

/-- Sets a debugger up. -/
def apply {ρ : Type} [Debuggee ρ] (s : Settings) (d : Debugger ρ) : Debugger ρ :=
  (d.setSpeed s.speed).setBreakOnError s.breakOnError

end Settings

namespace BreakpointDocument

/-- The entries of a breakpoint file, from what reading it gave. Without a file there are none. -/
def ofFile : Except FileError String → Except DocumentError (List BreakpointEntry)
  | .error .notFound => .ok []
  | content => DocumentError.read read? content

end BreakpointDocument

end LineBasic
