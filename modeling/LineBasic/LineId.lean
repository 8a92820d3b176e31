import LineBasic.Json

/-!
# Line identifiers

A line is known by its number, or by a label where a runtime generates code that has no number.
Only numbered lines carry breakpoints.
-/

namespace LineBasic

/-- What identifies a line. -/
inductive LineId where
  | number (n : Nat)
  | label (name : String)
deriving DecidableEq, Repr

namespace LineId

/-- The number of a numbered line. -/
def number? : LineId → Option Nat
  | number n => some n
  | label _ => none

/-- The identifier in writing. -/
def toText : LineId → String
  | number n => Nat.repr n
  | label name => name

/-- The identifier as JSON: a number, or the label as a text. -/
def toJson : LineId → Json
  | number n => Json.ofNat n
  | label name => Json.ofString name

end LineId

/-- Before any line has run, the current line is number zero. -/
instance : Inhabited LineId := ⟨.number 0⟩

end LineBasic
