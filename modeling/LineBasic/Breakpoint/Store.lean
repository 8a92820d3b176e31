import LineBasic.Breakpoint
import LineBasic.Table

/-!
# The breakpoint store

At most one breakpoint stands on a line, and they are listed in line order. Every new breakpoint
gets a new number, also one that replaces another on its line or comes from a document.

## Main definitions

* `BreakpointStore`: the breakpoints by line, and the last number given.
* `add`, `remove`, `toggle`, `clear`, `hit`, `replaceAll`: the operations.

## Main results

* `find?_put`, `find?_add`, `find?_remove`, `find?_addEntry`: what a lookup finds after a change.
-/

namespace LineBasic

/-- The breakpoints of a session by line, and the last number given to one. -/
structure BreakpointStore where
  table : Table Nat Breakpoint
  lastId : Nat

namespace BreakpointStore

/-- The store without breakpoints. -/
def empty : BreakpointStore := ⟨∅, 0⟩

instance : EmptyCollection BreakpointStore := ⟨empty⟩

/-- The breakpoints in line order. -/
def toList (s : BreakpointStore) : List Breakpoint := s.table.values

/-- The breakpoint on a line. -/
def find? (s : BreakpointStore) (line : Nat) : Option Breakpoint := s.table.find? line

/-- Whether a breakpoint stands on a line. -/
def contains (s : BreakpointStore) (line : Nat) : Bool := s.table.contains line

@[simp] theorem contains_eq (s : BreakpointStore) (line : Nat) :
    s.contains line = (s.find? line).isSome :=
  rfl

/-- The number of breakpoints. -/
def size (s : BreakpointStore) : Nat := s.table.size

/-- Puts a breakpoint on its line. -/
def put (s : BreakpointStore) (bp : Breakpoint) : BreakpointStore :=
  { s with table := s.table.insert bp.line bp }

/-- The breakpoint that `add` creates. -/
def fresh (s : BreakpointStore) (line : Nat) (condition : Option String) : Breakpoint :=
  ⟨s.lastId + 1, line, true, condition, 0⟩

/-- Creates a breakpoint, in the place of the one on its line. -/
def add (s : BreakpointStore) (line : Nat) (condition : Option String) :
    Breakpoint × BreakpointStore :=
  let bp := s.fresh line condition
  (bp, { s.put bp with lastId := bp.id })

/-- Takes the breakpoint off a line. -/
def remove (s : BreakpointStore) (line : Nat) : Option Breakpoint × BreakpointStore :=
  (s.find? line, { s with table := s.table.erase line })

/-- Switches the breakpoint on a line on or off, or creates one. -/
def toggle (s : BreakpointStore) (line : Nat) : Breakpoint × BreakpointStore :=
  match s.find? line with
  | some bp =>
      let bp := { bp with enabled := !bp.enabled }
      (bp, s.put bp)
  | none => s.add line none

@[simp] theorem toggle_of_some {s : BreakpointStore} {line : Nat} {bp : Breakpoint}
    (found : s.find? line = some bp) :
    s.toggle line = ({ bp with enabled := !bp.enabled }, s.put { bp with enabled := !bp.enabled }) := by
  unfold toggle
  rw [found]

@[simp] theorem toggle_of_none {s : BreakpointStore} {line : Nat} (missing : s.find? line = none) :
    s.toggle line = s.add line none := by
  unfold toggle
  rw [missing]

/-- Takes all breakpoints off. Their numbers are not given again. -/
def clear (s : BreakpointStore) : BreakpointStore := { s with table := ∅ }

/-- Counts a hit of the breakpoint on a line. -/
def hit (s : BreakpointStore) (line : Nat) : Option (Breakpoint × BreakpointStore) :=
  (s.find? line).map fun bp =>
    let bp := { bp with hits := bp.hits + 1 }
    (bp, s.put bp)

/-- The entries of the breakpoints, in line order. -/
def entries (s : BreakpointStore) : List BreakpointEntry := s.toList.map Breakpoint.entry

/-- Creates the breakpoint of an entry. -/
def addEntry (s : BreakpointStore) (e : BreakpointEntry) : BreakpointStore :=
  let (bp, s) := s.add e.line e.condition
  s.put { bp with enabled := e.enabled }

/-- Replaces all breakpoints by those of the entries; of two on a line the later stays. -/
def replaceAll (s : BreakpointStore) (entries : List BreakpointEntry) : BreakpointStore :=
  entries.foldl addEntry s.clear

/-! ## Lookups after a change -/

@[simp] theorem find?_put (s : BreakpointStore) (bp : Breakpoint) (line : Nat) :
    (s.put bp).find? line = if line = bp.line then some bp else s.find? line :=
  s.table.find?_insert bp.line line bp

@[simp] theorem find?_add (s : BreakpointStore) (own : Nat) (condition : Option String)
    (line : Nat) :
    (s.add own condition).2.find? line =
      if line = own then some (s.fresh own condition) else s.find? line :=
  s.find?_put (s.fresh own condition) line

@[simp] theorem find?_remove (s : BreakpointStore) (removed line : Nat) :
    (s.remove removed).2.find? line = if line = removed then none else s.find? line :=
  s.table.find?_erase removed line

@[simp] theorem find?_clear (s : BreakpointStore) (line : Nat) : s.clear.find? line = none := rfl

/-- The entry itself stands on its line, and all other lines stay as they were. -/
@[simp] theorem find?_addEntry (s : BreakpointStore) (e : BreakpointEntry) (line : Nat) :
    (s.addEntry e).find? line =
      if line = e.line then some ⟨s.lastId + 1, e.line, e.enabled, e.condition, 0⟩
      else s.find? line := by
  have hswitched := find?_put (s.add e.line e.condition).2
    { s.fresh e.line e.condition with enabled := e.enabled } line
  refine hswitched.trans ?_
  by_cases hline : line = e.line <;> simp [hline, fresh]

end BreakpointStore

end LineBasic
