import LineBasic.CompileError
import LineBasic.Expr
import LineBasic.Taken

/-!
# Reading expressions

Expressions are read by levels, from the operators that bind loosest to single operands. Operands
are checked as soon as an operator has both, so the first error from the left is the one reported.

The levels are those of `BinaryOp.level`: a level above zero is a chain of operands of the level
below, combined from the left, and `NOT` stands before an operand of its own level. At level zero
come the signs, then chains of `^`, whose right operand may carry a minus sign, then single
operands.

## Main definitions

* `Expr.parse`: reads an expression off the head of a list of tokens.
-/

namespace LineBasic

/-- The place of the next token, or the end of the line. -/
def posOf (eol : Nat) : List Token → Nat
  | [] => eol
  | t :: _ => t.pos

/-- The error of something other than `what` at the head of the tokens. -/
def expectedError (eol : Nat) (what : String) (ts : List Token) : CompileError :=
  .malformed (.expected what (ts.head?.map (·.kind))) (posOf eol ts)

/-- Takes a token of a kind off the head of the tokens. -/
def eat? (kind : TokenKind) (ts : List Token) : Option (Taken Unit ts) :=
  match ts with
  | [] => none
  | t :: rest => if t.kind = kind then some (.ofHead () t rest) else none

@[simp] theorem eat?_nil (kind : TokenKind) : eat? kind [] = none := rfl

@[simp] theorem eat?_of_kind {kind : TokenKind} {t : Token} (h : t.kind = kind)
    (rest : List Token) : eat? kind (t :: rest) = some (.ofHead () t rest) :=
  if_pos h

@[simp] theorem eat?_cons_of_ne {kind : TokenKind} {t : Token} (h : t.kind ≠ kind)
    (rest : List Token) : eat? kind (t :: rest) = none :=
  if_neg h

/-- Takes a sign off the head of the tokens, and refuses anything else there. -/
def expectSign (eol : Nat) (s : Sign) (what : String) (ts : List Token) :
    Except CompileError (Taken Unit ts) :=
  match eat? (.sign s) ts with
  | some taken => .ok taken
  | none => .error (expectedError eol what ts)

@[simp] theorem expectSign_head (eol : Nat) {s : Sign} {t : Token} (h : t.kind = .sign s)
    (what : String) (rest : List Token) :
    expectSign eol s what (t :: rest) = .ok (.ofHead () t rest) := by
  unfold expectSign
  rw [eat?_of_kind h]

namespace Expr

/-- An operation, if the operands have types that the operator takes. -/
def combine (op : BinaryOp) (lhs rhs : Expr) (pos : Nat) : Except CompileError Expr :=
  if op.accepts lhs.type rhs.type then .ok (.binary op lhs rhs) else .error (.typeMismatch pos)

/-- Refuses an operand that is no number. -/
def requireNumber (e : Expr) (pos : Nat) : Except CompileError Unit :=
  if e.type = .number then .ok () else .error (.typeMismatch pos)

variable (eol : Nat)

mutual

/-- Reads an expression of a level. -/
def parseLevel (level : Nat) (ts : List Token) : Except CompileError (Taken Expr ts) :=
  match level with
  | 0 => parseSigned ts
  | below + 1 =>
      if below + 1 = BinaryOp.notLevel then
        match eat? (.keyword .not) ts with
        | some ⟨_, tail, hTail⟩ => do
            let ⟨arg, rest, h⟩ ← parseLevel (below + 1) tail
            requireNumber arg (posOf eol ts)
            return ⟨.unary .not arg, rest, Nat.lt_trans h hTail⟩
        | none => parseLevel below ts
      else do
        let ⟨lhs, rest, h⟩ ← parseLevel below ts
        let ⟨e, rest', h'⟩ ← parseChain below lhs rest
        return ⟨e, rest', Nat.lt_of_le_of_lt h' h⟩
termination_by ts.length * 16 + level + 4

/-- Reads the operators of the level above `below`, and their right operands, behind `lhs`. -/
def parseChain (below : Nat) (lhs : Expr) (ts : List Token) :
    Except CompileError (TakenUpTo Expr ts) :=
  match ts with
  | [] => .ok (.nothing lhs [])
  | t :: tail =>
      match BinaryOp.ofToken (below + 1) t.kind with
      | none => .ok (.nothing lhs (t :: tail))
      | some op => do
          let ⟨rhs, rest, h⟩ ← parseLevel below tail
          let e ← combine op lhs rhs t.pos
          let ⟨e, rest', h'⟩ ← parseChain below e rest
          return ⟨e, rest', Nat.le_succ_of_le (Nat.le_trans h' (Nat.le_of_lt h))⟩
termination_by ts.length * 16 + below + 4

/-- Reads signs and what they stand before. -/
def parseSigned (ts : List Token) : Except CompileError (Taken Expr ts) :=
  match eat? (.sign .minus) ts with
  | some ⟨_, tail, hTail⟩ => do
      let ⟨arg, rest, h⟩ ← parseSigned tail
      requireNumber arg (posOf eol ts)
      return ⟨.unary .neg arg, rest, Nat.lt_trans h hTail⟩
  | none =>
      match eat? (.sign .plus) ts with
      | some ⟨_, tail, hTail⟩ => do
          let ⟨arg, rest, h⟩ ← parseSigned tail
          requireNumber arg (posOf eol ts)
          return ⟨arg, rest, Nat.lt_trans h hTail⟩
      | none => do
          let ⟨lhs, rest, h⟩ ← parseOperand ts
          let ⟨e, rest', h'⟩ ← parsePowers lhs rest
          return ⟨e, rest', Nat.lt_of_le_of_lt h' h⟩
termination_by ts.length * 16 + 3

/-- Reads the powers behind `lhs`. -/
def parsePowers (lhs : Expr) (ts : List Token) : Except CompileError (TakenUpTo Expr ts) :=
  match eat? (.sign .caret) ts with
  | some ⟨_, tail, hTail⟩ => do
      let ⟨rhs, rest, h⟩ ← parseExponent tail
      let e ← combine .pow lhs rhs (posOf eol ts)
      let ⟨e, rest', h'⟩ ← parsePowers e rest
      return ⟨e, rest', Nat.le_of_lt (Nat.lt_of_le_of_lt h' (Nat.lt_trans h hTail))⟩
  | none => .ok (.nothing lhs ts)
termination_by ts.length * 16 + 3

/-- Reads an exponent: an operand that may carry minus signs. -/
def parseExponent (ts : List Token) : Except CompileError (Taken Expr ts) :=
  match eat? (.sign .minus) ts with
  | some ⟨_, tail, hTail⟩ => do
      let ⟨arg, rest, h⟩ ← parseExponent tail
      requireNumber arg (posOf eol ts)
      return ⟨.unary .neg arg, rest, Nat.lt_trans h hTail⟩
  | none => parseOperand ts
termination_by ts.length * 16 + 2

/-- Reads a literal, a variable, a call or an expression in parentheses. -/
def parseOperand (ts : List Token) : Except CompileError (Taken Expr ts) :=
  match ts with
  | [] => .error (.malformed .unexpectedEnd eol)
  | t :: tail =>
      match t.kind with
      | .number n => .ok (.ofHead (.number n) t tail)
      | .text s => .ok (.ofHead (.text s) t tail)
      | .name name =>
          match eat? (.sign .leftParen) tail with
          | none => .ok (.ofHead (.var (Variable.ofName name)) t tail)
          | some ⟨_, inner, hInner⟩ =>
              match Builtin.ofName? (Text.asciiLower name) with
              | none => .error (.unknownFunction name t.pos)
              | some func => do
                  let ⟨args, rest, h⟩ ← parseArguments func inner
                  let ⟨_, rest', h'⟩ ← expectSign eol .rightParen "')'" rest
                  if func.accepts args.length then
                    return ⟨.call func args, rest',
                      Nat.lt_succ_of_lt (Nat.lt_trans (Nat.lt_of_lt_of_le h' h) hInner)⟩
                  else .error (.malformed (.argumentCount name) t.pos)
      | .sign .leftParen => do
          let ⟨e, rest, h⟩ ← parseLevel BinaryOp.topLevel tail
          let ⟨_, rest', h'⟩ ← expectSign eol .rightParen "')'" rest
          return ⟨e, rest', Nat.lt_succ_of_lt (Nat.lt_trans h' h)⟩
      | kind => .error (.malformed (.unexpected kind) t.pos)
termination_by ts.length * 16 + 1
decreasing_by
  · rw [List.length_cons]; omega
  · simp only [List.length_cons, BinaryOp.topLevel]; omega

/-- Reads the arguments of a call, none if a closing parenthesis follows at once. -/
def parseArguments (func : Builtin) (ts : List Token) :
    Except CompileError (TakenUpTo (List Expr) ts) :=
  match eat? (.sign .rightParen) ts with
  | some _ => .ok (.nothing [] ts)
  | none => do
      return (← parseArgumentsFrom func 0 ts).upTo
termination_by ts.length * 16 + 14

/-- Reads the arguments from the one with `index` arguments before it on, divided by commas. -/
def parseArgumentsFrom (func : Builtin) (index : Nat) (ts : List Token) :
    Except CompileError (Taken (List Expr) ts) := do
  let ⟨arg, rest, h⟩ ← parseLevel BinaryOp.topLevel ts
  if arg.type ≠ func.paramType index then .error (.typeMismatch (posOf eol ts))
  else match eat? (.sign .comma) rest with
    | some ⟨_, tail, hTail⟩ => do
        let ⟨args, rest', h'⟩ ← parseArgumentsFrom func (index + 1) tail
        return ⟨arg :: args, rest', Nat.lt_trans h' (Nat.lt_trans hTail h)⟩
    | none => .ok ⟨[arg], rest, h⟩
termination_by ts.length * 16 + 13
decreasing_by
  · simp only [BinaryOp.topLevel]; omega
  · omega

end

/-- Reads an expression off the head of a list of tokens. -/
def parse (ts : List Token) : Except CompileError (Taken Expr ts) :=
  parseLevel eol BinaryOp.topLevel ts

end Expr

end LineBasic
