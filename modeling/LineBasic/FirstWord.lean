import LineBasic.Number.Reading
import LineBasic.Text.Blank
import LineBasic.Text.Casing

/-!
# The first word of a statement

Before a statement is compiled, its first word tells whether it is a remark, and whether the console
has to refuse it because it would take control of the program away from the debugger. A line number
in front, followed by a blank, does not count.

## Main definitions

* `firstWord?`: the first word, in lower case.
* `isBlockedInConsole`: whether the console refuses a statement for its first word.
* `isComment`: whether a source line carries no code.
-/

namespace LineBasic

/-- A text without a line number at its start. Digits without a blank behind them are none. -/
def skipLineNumber (cs : List Char) : List Char :=
  match cs.dropWhile Number.isDigit with
  | c :: rest => if cs.head?.any Number.isDigit ∧ Text.isBlank c then Text.trimStart rest else cs
  | [] => cs

/-- The letters at the start of a statement, in lower case; none if it starts with another
character. -/
def firstWord? (statement : String) : Option String :=
  let word := (skipLineNumber (Text.trimStart statement.toList)).takeWhile Text.isLetter
  if word = [] then none else some (String.ofList (word.map Text.asciiLowerChar))

/-- The commands that take control of the program away from the debugger. -/
def blockedCommands : List String :=
  ["goto", "gosub", "run", "chain", "list", "new", "load", "merge", "save", "edit", "renum"]

/-- Whether the console refuses a statement because of its first word. -/
def isBlockedInConsole (statement : String) : Bool :=
  (firstWord? statement).any blockedCommands.contains

/-- Whether a source line is blank or a remark. -/
def isComment (line : String) : Bool :=
  let text := Text.trim line.toList
  text.isEmpty || text.head? == some '\x27' || firstWord? (String.ofList text) == some "rem"

end LineBasic
