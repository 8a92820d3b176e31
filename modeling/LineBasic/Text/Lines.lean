/-!
# Cutting a text into lines

A line runs up to and with its line feed; the last one may have none. Together the lines are the
text.
-/

namespace LineBasic.Text

/-- The lines of a text, each with its line feed. -/
def lines : List Char → List (List Char)
  | [] => []
  | c :: rest =>
      if c = '\n' then [c] :: lines rest
      else match lines rest with
        | [] => [[c]]
        | line :: others => (c :: line) :: others

/-- Nothing is lost, added or moved. -/
@[simp] theorem flatten_lines (cs : List Char) : (lines cs).flatten = cs := by
  induction cs with
  | nil => rfl
  | cons c rest ih =>
      unfold lines
      split
      · simp [ih]
      · split
        · next h =>
            rw [h] at ih
            simpa using ih
        · next h =>
            rw [h] at ih
            simpa using ih

/-- A line without the line feeds and carriage returns at its end. -/
def chomp (line : List Char) : List Char :=
  (line.reverse.dropWhile fun c => c = '\r' || c = '\n').reverse

end LineBasic.Text
