import LineBasic.Json.Reader
import LineBasic.Json.Record

/-!
# Breakpoints

A breakpoint stands on a numbered line. It can be switched off, it can carry a condition, and it
counts its hits. Breakpoints outlive a session as a document that lists line, switch and condition.

## Main definitions

* `Breakpoint`: a breakpoint with its identity and its hits.
* `BreakpointEntry`: what the document keeps of one.
* `BreakpointDocument.write`, `BreakpointDocument.read?`: the document in writing.
-/

namespace LineBasic

/-- A breakpoint. -/
structure Breakpoint where
  /-- A number that no other breakpoint of its store ever had. -/
  id : Nat
  line : Nat
  enabled : Bool
  condition : Option String
  hits : Nat
deriving DecidableEq, Repr

/-- What outlives a session of a breakpoint. -/
structure BreakpointEntry where
  line : Nat
  enabled : Bool
  condition : Option String
deriving DecidableEq, Repr

/-- The entry of a breakpoint. -/
def Breakpoint.entry (bp : Breakpoint) : BreakpointEntry := ⟨bp.line, bp.enabled, bp.condition⟩

/-- A breakpoint as JSON; the condition only if there is one. -/
def Breakpoint.toJson (bp : Breakpoint) : Json :=
  Json.ofFields <|
    [("id", Json.ofNat bp.id), ("line", Json.ofNat bp.line), ("enabled", Json.bool bp.enabled)] ++
    Json.optionalField "condition" (bp.condition.map Json.ofString) ++
    [("hitCount", Json.ofNat bp.hits)]

namespace BreakpointDocument

/-- An entry as JSON; the condition only if there is one. -/
def entryToJson (e : BreakpointEntry) : Json :=
  Json.ofFields <|
    [("line", Json.ofNat e.line), ("enabled", Json.bool e.enabled)] ++
    Json.optionalField "condition" (e.condition.map Json.ofString)

/-- The document as JSON. -/
def toJson (entries : List BreakpointEntry) : Json :=
  Json.ofFields [("breakpoints", .array (entries.map entryToJson))]

/-- The document in writing, a line for each item. -/
def write (entries : List BreakpointEntry) : String := (toJson entries).pretty

/-- Line numbers in documents are below this bound. -/
def lineBound : Nat := UInt32.size

/-- The entry that a JSON value is. -/
def entryOfJson? (j : Json) : Option BreakpointEntry := do
  match ← Json.record? ["line", "enabled", "condition"] j with
  | [some line, some enabled, condition] =>
      let line ← line.natural? lineBound
      let enabled ← enabled.bool?
      let condition ← Json.optional? Json.string? condition
      return ⟨line, enabled, condition⟩
  | _ => none

/-- The entries that a JSON value is. Without a list of breakpoints there are none. -/
def ofJson? (j : Json) : Option (List BreakpointEntry) := do
  match ← Json.record? ["breakpoints"] j with
  | [list] => Json.defaulted? (fun j => do (← j.items?).mapM entryOfJson?) [] list
  | _ => none

/-- The entries that a text lists. -/
def read? (text : String) : Option (List BreakpointEntry) := do ofJson? (← Json.read text)

end BreakpointDocument

end LineBasic
