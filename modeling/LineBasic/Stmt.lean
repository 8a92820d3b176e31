import LineBasic.Expr
import LineBasic.Number.Rounding

/-!
# Statements

The statements of a line. An `IF` chooses between branches, and a branch is either a jump to a line
or a list of statements, which may hold further `IF`s.
-/

namespace LineBasic

/-- A part of a `PRINT` statement. -/
inductive PrintItem where
  | expr (e : Expr)
  /-- A semicolon: the next item follows at once. -/
  | joined
  /-- A comma: the next item starts in the next zone. -/
  | nextZone
deriving Repr

mutual

inductive Stmt where
  | assign (target : Variable) (value : Expr)
  | print (items : List PrintItem)
  | ifThen (test : Expr) (yes : Branch)
  | ifThenElse (test : Expr) (yes no : Branch)
  | goto (line : Nat)
  | gosub (line : Nat)
  | «return»
  | «end»
  | stop
  /-- Raises the fault of a code. -/
  | raise (code : Expr)
  /-- Forgets all variables. -/
  | clear
  /-- A remark. -/
  | remark
deriving Repr

/-- What an `IF` does when its test comes out one way. -/
inductive Branch where
  | line (n : Nat)
  | statements (body : List Stmt)
deriving Repr

end

/-- Whether a statement is a remark. -/
def Stmt.isRemark : Stmt → Bool
  | .remark => true
  | _ => false

/-- A line number that a program can use: a whole number from 1 to 65535. -/
def lineNumberOf? (n : Float) : Option Nat :=
  match Number.whole? n with
  | some k => if 1 ≤ k ∧ k ≤ 65535 then some k.toNat else none
  | none => none

end LineBasic
