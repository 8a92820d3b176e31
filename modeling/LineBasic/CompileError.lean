import LineBasic.Fault
import LineBasic.Token

/-!
# Errors in a source line

A line that does not compile has one error, at a position counted in characters. Each kind of
mistake is a case of its own; the wording is in `Problem.message` and `CompileError.message`.
-/

namespace LineBasic

/-- What is wrong with the form of a line. -/
inductive Problem where
  | unexpectedCharacter (c : Char)
  /-- No digit of the base behind `&`, `&H` or `&X`. -/
  | missingDigits
  /-- A hexadecimal or binary number of more than sixteen bits. -/
  | numberOutOfRange (digits : String)
  /-- Something else, or the end of the line, where `what` has to stand. -/
  | expected (what : String) (found : Option TokenKind)
  | unexpected (found : TokenKind)
  | unexpectedEnd
  | missingStatement
  /-- A keyword with which no statement begins. -/
  | unsupportedCommand (k : Keyword)
  | argumentCount (function : String)
  | missingName
  | missingThen
  | emptyBranch
  | missingLineNumber
deriving DecidableEq, Repr

/-- The wording of a problem. -/
def Problem.message : Problem → String
  | .unexpectedCharacter c => "unexpected character '" ++ c.toString ++ "'"
  | .missingDigits => "expected digits after '&'"
  | .numberOutOfRange digits => "number '&" ++ digits ++ "' out of range"
  | .expected what found =>
      "expected " ++ what ++ " but found " ++ (found.map TokenKind.describe).getD "end of line"
  | .unexpected found => "unexpected " ++ found.describe
  | .unexpectedEnd => "unexpected end of line"
  | .missingStatement => "expected a statement"
  | .unsupportedCommand k => "unsupported command " ++ (TokenKind.keyword k).describe
  | .argumentCount function => "wrong number of arguments for " ++ function
  | .missingName => "expected a variable name"
  | .missingThen => "expected THEN or GOTO"
  | .emptyBranch => "empty branch"
  | .missingLineNumber => "expected a line number"

/-- Why a line does not compile, and where. -/
inductive CompileError where
  | malformed (problem : Problem) (pos : Nat)
  | typeMismatch (pos : Nat)
  | unknownFunction (name : String) (pos : Nat)
deriving DecidableEq, Repr

namespace CompileError

/-- The wording of an error. -/
def message : CompileError → String
  | malformed problem _ => "Syntax error: " ++ problem.message
  | typeMismatch _ => "Type mismatch"
  | unknownFunction name _ => "Unknown function " ++ name

/-- The fault code that stands for an error. -/
def code : CompileError → Nat
  | malformed _ _ => 2
  | typeMismatch _ => FaultKind.typeMismatch.code
  | unknownFunction _ _ => 2

/-- The number of characters before the place of an error. -/
def pos : CompileError → Nat
  | malformed _ pos => pos
  | typeMismatch pos => pos
  | unknownFunction _ pos => pos

end CompileError

end LineBasic
