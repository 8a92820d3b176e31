import LineBasic.Value

/-!
# Built-in functions

The functions that expressions can call, with the types that decide whether a call compiles.
-/

namespace LineBasic

/-- The built-in functions. -/
inductive Builtin where
  | abs | int | fix | sgn | sqr | sin | cos | tan | atn | exp | log
  | len | asc | val | chr | str | left | right | mid | upper | lower | min | max
deriving DecidableEq, Repr

namespace Builtin

/-- The name of a function in lower case, with the mark of one that gives a text. -/
def name : Builtin → String
  | abs => "abs" | int => "int" | fix => "fix" | sgn => "sgn" | sqr => "sqr" | sin => "sin"
  | cos => "cos" | tan => "tan" | atn => "atn" | exp => "exp" | log => "log" | len => "len"
  | asc => "asc" | val => "val" | chr => "chr$" | str => "str$" | left => "left$"
  | right => "right$" | mid => "mid$" | upper => "upper$" | lower => "lower$" | min => "min"
  | max => "max"

/-- All functions. -/
def all : List Builtin := [
  abs, int, fix, sgn, sqr, sin, cos, tan, atn, exp, log,
  len, asc, val, chr, str, left, right, mid, upper, lower, min, max]

/-- The function of a name in lower case. -/
def ofName? (n : String) : Option Builtin := all.find? (·.name == n)

@[simp] theorem ofName?_name (f : Builtin) : ofName? f.name = some f := by cases f <;> decide

/-- The type of the argument with this many arguments before it. -/
def paramType (f : Builtin) (index : Nat) : ValueType :=
  match f with
  | len | asc | val | upper | lower => .text
  | left | right | mid => if index = 0 then .text else .number
  | _ => .number

/-- Whether a function takes this many arguments. -/
def accepts (f : Builtin) (count : Nat) : Bool :=
  match f with
  | left | right => count == 2
  | mid => count == 2 || count == 3
  | min | max => 1 ≤ count
  | _ => count == 1

/-- The type of a function's result. -/
def returnType : Builtin → ValueType
  | chr | str | left | right | mid | upper | lower => .text
  | _ => .number

end Builtin

end LineBasic
