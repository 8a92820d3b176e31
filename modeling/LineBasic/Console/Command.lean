import LineBasic.Number.Reading
import LineBasic.Pace
import LineBasic.Text.Blank
import LineBasic.Text.Casing
import LineBasic.Text.ShellWord

/-!
# Commands at the prompt

A line at the prompt is a command word with its arguments, and whatever begins with another word is
input for the program: an expression, or else a statement. An empty line repeats the most common
command, a step.

## Main definitions

* `Command`: what a line asks for.
* `CommandError`: why a line is refused.
* `Command.parse`: the command of a line.
-/

namespace LineBasic

/-- What a line at the prompt asks for. -/
inductive Command where
  | continue
  | stepInto
  | stepOver
  | stepOut
  | pause
  | break (line : Nat) (condition : Option String)
  | delete (line : Nat)
  | toggle (line : Nat)
  | list
  | backtrace
  | vars
  | speed (speed : Nat)
  | eval (expression : String)
  | exec (statement : String)
  | help
  | quit
  /-- No command word: an expression, or else a statement. -/
  | input (text : String)
  /-- An empty line. -/
  | empty
deriving DecidableEq, Repr

/-- Why a line at the prompt is refused. -/
inductive CommandError where
  | unbalancedQuotes
  | missingArgument (command : String)
  | invalidLine (text : String)
  | invalidSpeed (text : String)
deriving DecidableEq, Repr

/-- The wording of an error. -/
def CommandError.message : CommandError → String
  | unbalancedQuotes => "unbalanced quotes"
  | missingArgument command => "'" ++ command ++ "' needs an argument"
  | invalidLine text => "invalid line number: " ++ text
  | invalidSpeed text => "invalid speed: " ++ text ++ " (0-100)"

namespace Command

/-- The first word of the arguments of a command. -/
def argument (command : String) (rest : List Char) : Except CommandError (List Char) :=
  match Text.firstShellWord rest with
  | .unbalanced => .error .unbalancedQuotes
  | .missing => .error (.missingArgument command)
  | .word text => .ok text

/-- Line numbers at the prompt are below this bound. -/
def lineBound : Nat := UInt32.size

/-- The line number that is the argument of a command. -/
def lineArgument (command : String) (rest : List Char) : Except CommandError Nat := do
  let text ← argument command rest
  match Number.natural? text with
  | some n => if n < lineBound then .ok n else .error (.invalidLine (String.ofList text))
  | none => .error (.invalidLine (String.ofList text))

/-- The speed that is the argument of a command. -/
def speedArgument (command : String) (rest : List Char) : Except CommandError Nat := do
  let text ← argument command rest
  match Number.natural? text with
  | some n => if n ≤ maxSpeed then .ok n else .error (.invalidSpeed (String.ofList text))
  | none => .error (.invalidSpeed (String.ofList text))

/-- The arguments of a command as they stand. -/
def textArgument (command : String) (rest : List Char) : Except CommandError String :=
  if rest = [] then .error (.missingArgument command) else .ok (String.ofList rest)

/-- The mark between the line of a breakpoint and its condition, in either case of letters. -/
def isIfMark (cs : List Char) : Bool :=
  (cs.take 4).map Text.asciiLowerChar == [' ', 'i', 'f', ' ']

/-- A text before and behind its first mark of a condition. -/
def splitAtIf : List Char → Option (List Char × List Char)
  | [] => none
  | c :: rest =>
      if isIfMark (c :: rest) then some ([], (c :: rest).drop 4)
      else (splitAtIf rest).map fun (before, after) => (c :: before, after)

/-- The command that sets a breakpoint. A condition of blanks is none. -/
def breakCommand (rest : List Char) : Except CommandError Command :=
  match splitAtIf rest with
  | none => do return .break (← lineArgument "b" rest) none
  | some (before, after) => do
      let line ← lineArgument "b" before
      let condition := Text.trim after
      return .break line (if condition = [] then none else some (String.ofList condition))

/-- A text cut at its first blank: the word before it, and the rest without blanks around it. -/
def splitWord (cs : List Char) : List Char × List Char :=
  (cs.takeWhile (!Text.isBlank ·), Text.trim (cs.dropWhile (!Text.isBlank ·)))

/-- The command of a line. -/
def parse (input : String) : Except CommandError Command :=
  let text := Text.trim input.toList
  let (word, rest) := splitWord text
  match String.ofList (word.map Text.asciiLowerChar) with
  | "" => .ok .empty
  | "c" | "continue" => .ok .continue
  | "s" | "step" | "into" => .ok .stepInto
  | "n" | "next" | "over" => .ok .stepOver
  | "o" | "out" => .ok .stepOut
  | "p" | "pause" => .ok .pause
  | "b" | "break" => breakCommand rest
  | "d" | "delete" => (lineArgument "d" rest).map .delete
  | "t" | "toggle" => (lineArgument "t" rest).map .toggle
  | "bl" => .ok .list
  | "bt" | "where" => .ok .backtrace
  | "vars" => .ok .vars
  | "speed" => (speedArgument "speed" rest).map .speed
  | "eval" => (textArgument "eval" rest).map .eval
  | "exec" => (textArgument "exec" rest).map .exec
  | "h" | "help" => .ok .help
  | "q" | "quit" => .ok .quit
  | _ => .ok (.input (String.ofList text))

end Command

end LineBasic
