import LineBasic.Console.Session
import LineBasic.Settings

/-!
# The command line

A session is asked for with a program file and options. The command line names the files; who runs
it reads and writes them.

## Main definitions

* `Arguments.parse`: the meaning of the arguments.
* `StartError`: why a session cannot start.
* `Launch.prepare`: a session that is ready to run, and the file to save its breakpoints in.
-/

namespace LineBasic

/-- The arguments of the command line. -/
structure Arguments where
  program : String
  speed : Option Nat := none
  breakOnError : Option Bool := none
  breakpoints : Option String := none
  config : Option String := none
  stopOnEntry : Bool := false
deriving DecidableEq, Repr

namespace Arguments

/-- The arguments so far, while they are being read. -/
structure Draft where
  program : Option String := none
  speed : Option Nat := none
  breakOnError : Option Bool := none
  breakpoints : Option String := none
  config : Option String := none
  stopOnEntry : Bool := false

/-- A value for a place that takes one value. -/
def fill {α : Type} (place : Option α) (value : Option α) : Option (Option α) :=
  match place, value with
  | none, some v => some (some v)
  | _, _ => none

/-- A file name. -/
def fileName? (text : String) : Option String := if text = "" then none else some text

/-- A speed from 0 to the highest. -/
def speed? (text : String) : Option Nat := do
  let k ← Number.signedDigits? text.toList
  if 0 ≤ k ∧ k ≤ maxSpeed then some k.toNat else none

/-- A switch. -/
def switch? : String → Option Bool
  | "true" => some true
  | "false" => some false
  | _ => none

/-- Sets an option that takes a value. -/
def setOption (d : Draft) (name value : String) : Option Draft :=
  match name with
  | "speed" => do return { d with speed := ← fill d.speed (speed? value) }
  | "break-on-error" => do return { d with breakOnError := ← fill d.breakOnError (switch? value) }
  | "breakpoints" => do return { d with breakpoints := ← fill d.breakpoints (fileName? value) }
  | "config" => do return { d with config := ← fill d.config (fileName? value) }
  | _ => none

/-- Sets an option that takes no value. -/
def setFlag (d : Draft) (name : String) : Option Draft :=
  match name with
  | "stop-on-entry" => if d.stopOnEntry then none else some { d with stopOnEntry := true }
  | _ => none

/-- Takes an argument that is no option. -/
def setProgram (d : Draft) (text : String) : Option Draft := do
  return { d with program := ← fill d.program (fileName? text) }

/-- Whether an argument is an option: it starts with a hyphen and does not end there. -/
def isOption (arg : String) : Bool :=
  match arg.toList with
  | '-' :: _ :: _ => true
  | _ => false

/-- The name of a long option, with the value behind an equals sign. -/
def splitOption (arg : String) : String × Option String :=
  let body := arg.toList.drop 2
  (String.ofList (body.takeWhile (· ≠ '=')),
    match body.dropWhile (· ≠ '=') with
    | _ :: value => some (String.ofList value)
    | [] => none)

/-- Whether an option takes a value. -/
def takesValue (name : String) : Bool :=
  ["speed", "break-on-error", "breakpoints", "config"].contains name

/-- Reads the arguments behind a draft. Behind `--` none is an option. -/
def readFrom (d : Draft) : List String → Option Draft
  | [] => some d
  | "--" :: rest => rest.foldlM setProgram d
  | arg :: rest =>
      if !isOption arg then do readFrom (← setProgram d arg) rest
      else if !"--".toList.isPrefixOf arg.toList then none
      else
        let (name, value) := splitOption arg
        match value with
        | some value => do readFrom (← setOption d name value) rest
        | none =>
            if takesValue name then
              match rest with
              | value :: rest =>
                  if isOption value then none
                  else do readFrom (← setOption d name value) rest
              | [] => none
            else do readFrom (← setFlag d name) rest

/-- The meaning of the arguments; none if they are refused. -/
def parse (args : List String) : Option Arguments := do
  let d ← readFrom {} args
  let program ← d.program
  return ⟨program, d.speed, d.breakOnError, d.breakpoints, d.config, d.stopOnEntry⟩

/-- Settings, overruled by the arguments. -/
def overrule (a : Arguments) (s : Settings) : Settings where
  speed := a.speed.getD s.speed
  breakOnError := a.breakOnError.getD s.breakOnError
  stopOnEntry := a.stopOnEntry || s.stopOnEntry
  breakpointsFile := a.breakpoints.orElse fun _ => s.breakpointsFile

end Arguments

/-- Why a session cannot start, or its breakpoints cannot be kept. -/
inductive StartError where
  | document (e : DocumentError)
  | program (e : FileError)
  | load (e : LoadError)
deriving DecidableEq, Repr

/-- The wording of an error. -/
def StartError.message : StartError → String
  | document e => e.message
  | program e => e.message
  | load e => e.message

/-- A program that has been started, and the file to save its breakpoints in. -/
structure Launch where
  host : Host
  saveTo : Option String

namespace Launch

variable {m : Type → Type} [Monad m]

/-- The settings of a session: those of the file the arguments name, overruled by the arguments. -/
def readSettings (read : String → m (Except FileError String)) (a : Arguments) :
    ExceptT StartError m Settings := do
  match a.config with
  | none => return a.overrule {}
  | some file =>
      match DocumentError.read Settings.read? (← read file) with
      | .ok s => return a.overrule s
      | .error e => throw (.document e)

/-- The program of a session. -/
def readProgram (read : String → m (Except FileError String)) (a : Arguments) :
    ExceptT StartError m Host := do
  match ← read a.program with
  | .error e => throw (.program e)
  | .ok source =>
      match Host.load source with
      | .error e => throw (.load e)
      | .ok h => return h

/-- The breakpoints that a session begins with. -/
def readBreakpoints (read : String → m (Except FileError String)) (file : String) :
    ExceptT StartError m (List BreakpointEntry) := do
  match BreakpointDocument.ofFile (← read file) with
  | .ok entries => return entries
  | .error e => throw (.document e)

/-- Reads the files of a session and starts its program. -/
def prepare (read : String → m (Except FileError String)) (a : Arguments) :
    ExceptT StartError m Launch := do
  let s ← readSettings read a
  let h ← readProgram read a
  let h := h.withDebugger (s.apply h.debugger)
  let h ← match s.breakpointsFile with
    | none => pure h
    | some file => do
        let entries ← readBreakpoints read file
        pure (h.withDebugger (h.debugger.importBreakpoints entries))
  return ⟨h.start s.stopOnEntry, s.breakpointsFile⟩

/-- The text to save for the breakpoints of a program. -/
def savedText (h : Host) : String := BreakpointDocument.write h.debugger.breakpoints.entries

end Launch

end LineBasic
