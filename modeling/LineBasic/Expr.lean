import LineBasic.Builtin
import LineBasic.Token
import LineBasic.Variables.Name

/-!
# Expressions

Expressions are trees over numbers, texts, variables, operators and calls of built-in functions. The
type of an expression is read off its tree.

## Main definitions

* `UnaryOp`, `BinaryOp`: the operators; `BinaryOp.level` is their precedence.
* `Expr`: expressions.
* `Expr.type`: the type of an expression.
-/

namespace LineBasic

/-- A variable, by its storage key. -/
structure Variable where
  key : String
  type : ValueType
deriving DecidableEq, Repr

/-- The variable of a name. -/
def Variable.ofName (name : String) : Variable := ⟨storageKey name, typeOfName name⟩

inductive UnaryOp where
  | neg
  | not
deriving DecidableEq, Repr

inductive BinaryOp where
  | add | sub | mul | div | intDiv | mod | pow
  | eq | ne | lt | gt | le | ge
  | and | or | xor
deriving DecidableEq, Repr

namespace BinaryOp

/-- The operators that compare two values of one type. -/
def isComparison : BinaryOp → Bool
  | eq | ne | lt | gt | le | ge => true
  | _ => false

/-- The level of the prefix operator `NOT`, between the comparisons and `AND`. -/
abbrev notLevel : Nat := 6

/-- The level of a whole expression: that of the operators that bind loosest. -/
abbrev topLevel : Nat := 8

/-- How loosely an operator binds. Signs bind tighter than level one and looser than `^`. -/
def level : BinaryOp → Nat
  | or | xor => 8
  | and => 7
  | eq | ne | lt | gt | le | ge => 5
  | add | sub => 4
  | mod => 3
  | intDiv => 2
  | mul | div => 1
  | pow => 0

/-- The token of an operator. -/
def token : BinaryOp → TokenKind
  | add => .sign .plus | sub => .sign .minus | mul => .sign .star | div => .sign .slash
  | intDiv => .sign .backslash | mod => .keyword .mod | pow => .sign .caret
  | eq => .sign .eq | ne => .sign .ne | lt => .sign .lt | gt => .sign .gt | le => .sign .le
  | ge => .sign .ge | and => .keyword .and | or => .keyword .or | xor => .keyword .xor

/-- The operator that a token stands for. -/
def ofToken? : TokenKind → Option BinaryOp
  | .sign .plus => some add | .sign .minus => some sub | .sign .star => some mul
  | .sign .slash => some div | .sign .backslash => some intDiv | .keyword .mod => some mod
  | .sign .caret => some pow | .sign .eq => some eq | .sign .ne => some ne | .sign .lt => some lt
  | .sign .gt => some gt | .sign .le => some le | .sign .ge => some ge | .keyword .and => some and
  | .keyword .or => some or | .keyword .xor => some xor
  | _ => none

@[simp] theorem ofToken?_token (op : BinaryOp) : ofToken? op.token = some op := by cases op <;> rfl

/-- The operator of a level that a token stands for. -/
def ofToken (level : Nat) (kind : TokenKind) : Option BinaryOp :=
  (ofToken? kind).filter fun op => op.level == level

/-- Whether an operator takes operands of these types. -/
def accepts (op : BinaryOp) (left right : ValueType) : Bool :=
  if op = add ∨ op.isComparison then left = right else left = .number ∧ right = .number

end BinaryOp

inductive Expr where
  | number (n : Float)
  | text (s : String)
  | var (v : Variable)
  | unary (op : UnaryOp) (arg : Expr)
  | binary (op : BinaryOp) (lhs rhs : Expr)
  | call (func : Builtin) (args : List Expr)
deriving Repr

/--
The type of an expression. A sum has the type of its first operand, every other operation gives a
number.
-/
def Expr.type : Expr → ValueType
  | number _ => .number
  | text _ => .text
  | var v => v.type
  | unary _ _ => .number
  | binary op lhs _ => if op = .add then lhs.type else .number
  | call func _ => func.returnType

end LineBasic
