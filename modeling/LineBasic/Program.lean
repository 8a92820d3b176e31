import LineBasic.FirstWord
import LineBasic.Line
import LineBasic.Table
import LineBasic.Text.Lines

/-!
# Programs

A program is a text of numbered lines. They run in the order of their numbers, and of two lines with
one number the last counts. Blank lines and remarks may stand without a number.

## Main definitions

* `SourceLine`: a compiled line and its place in the text.
* `Program`: the lines by number.
* `Program.parse`: the program that a text is.
* `Program.sourceMap`: the place of every line.
-/

namespace LineBasic

/-- A numbered line, and its place in the text of the program: `len` characters from `start` on. -/
structure SourceLine where
  number : Nat
  text : String
  start : Nat
  len : Nat
  compiled : Line
deriving Repr

/-- Why a text is no program. -/
inductive LoadError where
  /-- A line of code without a number; physical lines are counted from one. -/
  | missingLineNumber (physical : Nat)
  | compile (line : Nat) (error : CompileError)
  | empty
deriving DecidableEq, Repr

/-- The wording of an error. -/
def LoadError.message : LoadError → String
  | missingLineNumber physical => "line " ++ Nat.repr physical ++ ": missing line number"
  | compile line error => error.message ++ " in " ++ Nat.repr line
  | empty => "program is empty"

/-- A program: its lines by number. -/
structure Program where
  table : Table Nat SourceLine

namespace Program

/-- Line numbers that can be written down are below this bound. -/
def numberBound : Nat := UInt32.size

/-- The number that the decimal digits at the start of a text denote. -/
def leadingNumber? (cs : List Char) : Option Nat :=
  let digits := cs.takeWhile Number.isDigit
  let n := Number.ofDecimalDigits digits
  if digits ≠ [] ∧ n < numberBound then some n else none

/-- What a physical line contributes: nothing, or a line of the program. -/
def readLine (physical offset : Nat) (raw : List Char) : Except LoadError (Option SourceLine) :=
  let line := Text.chomp raw
  let leading := (line.takeWhile Text.isBlank).length
  let text := Text.trim line
  if text = [] then .ok none
  else match leadingNumber? text with
    | none =>
        if isComment (String.ofList text) then .ok none else .error (.missingLineNumber physical)
    | some number =>
        match Line.compile (String.ofList text) with
        | .error e => .error (.compile number e)
        | .ok compiled =>
            .ok (some ⟨number, String.ofList text, offset + leading, text.length, compiled⟩)

/-- The lines of physical lines, of which the first is the `physical`-th and starts at `offset`. -/
def readLines (physical offset : Nat) (table : Table Nat SourceLine) :
    List (List Char) → Except LoadError (Table Nat SourceLine)
  | [] => .ok table
  | raw :: rest => do
      match ← readLine physical offset raw with
      | none => readLines (physical + 1) (offset + raw.length) table rest
      | some line =>
          readLines (physical + 1) (offset + raw.length) (table.insert line.number line) rest

/-- The program that a text is. -/
def parse (source : String) : Except LoadError Program := do
  let table ← readLines 1 0 ∅ (Text.lines source.toList)
  if table.isEmpty then .error .empty else .ok ⟨table⟩

/-- The lines in the order of their numbers. -/
def lines (p : Program) : List SourceLine := p.table.values

/-- The number of lines. -/
def size (p : Program) : Nat := p.table.size

/-- The line with this many lines before it. -/
def get? (p : Program) (index : Nat) : Option SourceLine := p.lines[index]?

/-- The number of lines before the line of a number. -/
def indexOf? (p : Program) (number : Nat) : Option Nat :=
  p.table.toList.findIdx? fun entry => entry.1 == number

/-- The start and the length of every line, by its number in writing. -/
def sourceMap (p : Program) : Table String (Nat × Nat) :=
  p.lines.foldl (fun t line => t.insert (Nat.repr line.number) (line.start, line.len)) ∅

end Program

end LineBasic
