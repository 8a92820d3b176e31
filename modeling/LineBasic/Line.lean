import LineBasic.Stmt.Parser
import LineBasic.Token.Lexer

/-!
# Compiled lines

A line is compiled as a whole: its tokens, an optional line number, its statements, and nothing
behind them.
-/

namespace LineBasic

/-- A compiled line. -/
structure Line where
  number : Option Nat
  statements : List Stmt
deriving Repr

namespace Line

/-- The line number at the head of the tokens, if they begin with a number. -/
def parseNumber (eol : Nat) (ts : List Token) :
    Except CompileError (TakenUpTo (Option Nat) ts) :=
  if startsWithNumber ts then do return ((← parseLineNumber eol ts).map some).upTo
  else .ok (.nothing none ts)

/-- The line that a list of tokens forms; `eol` is the place of its end. -/
def ofTokens (eol : Nat) (ts : List Token) : Except CompileError Line := do
  let number ← parseNumber eol ts
  let statements ← Stmt.parseList eol number.rest
  match statements.rest with
  | [] => return ⟨number.value, statements.value⟩
  | t :: _ => .error (.malformed (.unexpected t.kind) t.pos)

/-- Compiles a source line. -/
def compile (source : String) : Except CompileError Line := do
  ofTokens source.length (← tokenize source)

end Line

end LineBasic
