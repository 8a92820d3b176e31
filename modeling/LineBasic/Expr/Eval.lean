import LineBasic.Expr
import LineBasic.Number.Reading
import LineBasic.Text.Blank
import LineBasic.Variables

/-!
# The value of an expression

Operands are evaluated from the left, and the first fault ends the evaluation. A result that is no
finite number is an overflow. Logic and integer division work on sixteen bits, and a comparison
gives -1 or 0.

## Main definitions

* `Expr.eval`: the value of an expression for given variables.
* `BinaryOp.apply`, `UnaryOp.apply`, `Builtin.apply`: operations on values.
-/

namespace LineBasic

/-- The longest text that a sum of texts gives. -/
def maxTextLength : Nat := 255

/-- The result of an evaluation: a value, or the fault that ended it. -/
abbrev Evaluated (α : Type) := Except Fault α

/-- The fault of a cause, as a result. -/
def fault {α : Type} (kind : FaultKind) : Evaluated α := .error (.ofKind kind)

namespace Value

/-- The number of a value that has to be one. -/
def asNumber : Value → Evaluated Float
  | number n => .ok n
  | text _ => fault .typeMismatch

/-- The text of a value that has to be one. -/
def asText : Value → Evaluated String
  | number _ => fault .typeMismatch
  | text s => .ok s

/-- A truth value: all bits set, or none. -/
def ofBool (b : Bool) : Value := number (if b then -1.0 else 0.0)

/-- An integer as a value. -/
def ofInt (k : Int) : Value := number (Float.ofInt k)

/-- A natural number as a value. -/
def ofNat (n : Nat) : Value := number (Float.ofNat n)

end Value

/-- A numeric result, which has to be finite. -/
def finiteValue (n : Float) : Evaluated Value :=
  if n.isFinite then .ok (.number n) else fault .overflow

/--
The sixteen bits of a number, rounded to an integer. From 32768 to 65535 they are those of a
negative integer.
-/
def word16 (n : Float) : Evaluated Int16 :=
  match Number.nearest? n with
  | some k => if -32768 ≤ k ∧ k ≤ 65535 then .ok (Int16.ofInt k) else fault .overflow
  | none => fault .overflow

/-- A count of characters, or a character code: rounded, from 0 to 255. -/
def count (v : Value) : Evaluated Nat := do
  match Number.nearest? (← v.asNumber) with
  | some k => if 0 ≤ k ∧ k ≤ 255 then .ok k.toNat else fault .improperArgument
  | none => fault .improperArgument

/-! ## Operators -/

/-- How two values of one type compare. A number compares as equal to what is no number. -/
def compareValues : Value → Value → Evaluated Ordering
  | .number a, .number b => .ok (if a < b then .lt else if b < a then .gt else .eq)
  | .text a, .text b => .ok (compare a b)
  | _, _ => fault .typeMismatch

/-- Whether a comparison holds for operands that compare as `o`. -/
def BinaryOp.holds (op : BinaryOp) (o : Ordering) : Bool :=
  match op with
  | eq => o == .eq
  | ne => o != .eq
  | lt => o == .lt
  | gt => o == .gt
  | le => o != .gt
  | ge => o != .lt
  | _ => false

/-- An operation on two numbers. -/
def BinaryOp.applyNumbers (op : BinaryOp) (a b : Float) : Evaluated Value :=
  match op with
  | add => finiteValue (a + b)
  | sub => finiteValue (a - b)
  | mul => finiteValue (a * b)
  | div => if b == 0.0 then fault .divisionByZero else finiteValue (a / b)
  | intDiv => do
      let x ← word16 a
      let y ← word16 b
      if y = 0 then fault .divisionByZero else .ok (.ofInt (x.toInt.tdiv y.toInt))
  | mod => do
      let x ← word16 a
      let y ← word16 b
      if y = 0 then fault .divisionByZero else .ok (.ofInt (x.toInt.tmod y.toInt))
  | pow => finiteValue (Float.pow a b)
  | and => do return .ofInt ((← word16 a) &&& (← word16 b)).toInt
  | or => do return .ofInt ((← word16 a) ||| (← word16 b)).toInt
  | xor => do return .ofInt ((← word16 a) ^^^ (← word16 b)).toInt
  | _ => fault .typeMismatch

/-- A sum of texts. -/
def joinTexts (a b : String) : Evaluated Value :=
  if maxTextLength < a.length + b.length then fault .stringTooLong else .ok (.text (a ++ b))

/-- An operation on two values. -/
def BinaryOp.apply (op : BinaryOp) (lhs rhs : Value) : Evaluated Value :=
  if op.isComparison then (compareValues lhs rhs).map fun o => .ofBool (op.holds o)
  else match op, lhs, rhs with
    | .add, .text a, .text b => joinTexts a b
    | op, lhs, rhs => do
        let a ← lhs.asNumber
        let b ← rhs.asNumber
        op.applyNumbers a b

/-- An operation on one value. -/
def UnaryOp.apply (op : UnaryOp) (arg : Value) : Evaluated Value := do
  let n ← arg.asNumber
  match op with
  | neg => finiteValue (-n)
  | not => return .ofInt (~~~(← word16 n)).toInt

/-! ## Functions -/

/-- The sign of a number, as -1, 0 or 1. -/
def signOf (n : Float) : Float := if 0.0 < n then 1.0 else if n < 0.0 then -1.0 else 0.0

/--
The smaller of two numbers, and the second where they compare as equal. What is no number gives way
to the other.
-/
def smaller (a b : Float) : Float :=
  if a.isNaN then b else if b.isNaN then a else if a < b then a else b

/--
The larger of two numbers, and the second where they compare as equal. What is no number gives way
to the other.
-/
def larger (a b : Float) : Float :=
  if a.isNaN then b else if b.isNaN then a else if b < a then a else b

/-- The numbers among arguments that all have to be numbers, folded from the first. -/
def foldNumbers (f : Float → Float → Float) (first : Float) (rest : List Value) :
    Evaluated Float :=
  rest.foldlM (fun acc v => do return f acc (← v.asNumber)) first

/-- A number as `STR$` writes it: with a space in the place of a minus sign. -/
def spacedNumber (n : Float) : String :=
  (if 0.0 ≤ n then " " else "") ++ Number.Notation.plain.write n

/-- A text with its characters changed by `f`. -/
def mapText (f : List Char → List Char) (s : String) : Value := .text (String.ofList (f s.toList))

/-- A function of one number. -/
def Builtin.applyNumber (f : Builtin) (n : Float) : Evaluated Value :=
  match f with
  | abs => finiteValue (Float.abs n)
  | int => finiteValue (Number.floor n)
  | fix => finiteValue (Number.trunc n)
  | sgn => .ok (.number (signOf n))
  | sqr => if n < 0.0 then fault .improperArgument else finiteValue (Float.sqrt n)
  | sin => finiteValue (Float.sin n)
  | cos => finiteValue (Float.cos n)
  | tan => finiteValue (Float.tan n)
  | atn => finiteValue (Float.atan n)
  | exp => finiteValue (Float.exp n)
  | log => if n ≤ 0.0 then fault .improperArgument else finiteValue (Float.log n)
  | str => .ok (.text (spacedNumber n))
  | _ => fault .typeMismatch

/-- A function of one text. -/
def Builtin.applyText (f : Builtin) (s : String) : Evaluated Value :=
  match f with
  | len => .ok (.ofNat s.length)
  | asc =>
      match s.toList with
      | c :: _ => .ok (.ofNat c.toNat)
      | [] => fault .improperArgument
  | val => .ok (.number (Number.leading (Text.trimStart s.toList)))
  | upper => .ok (mapText Text.upper s)
  | lower => .ok (mapText Text.lower s)
  | _ => fault .typeMismatch

/-- The characters from the one at `start`, counted from one, and `length` of them. -/
def middle (s : String) (start length : Nat) : Value :=
  mapText (fun cs => (cs.drop (start - 1)).take length) s

/-- The value of a call for the values of its arguments. -/
def Builtin.apply (f : Builtin) (args : List Value) : Evaluated Value :=
  match f, args with
  | .chr, [code] => do return .text (Char.ofNat (← count code)).toString
  | .left, [s, n] => do
      let n ← count n
      let s ← s.asText
      return mapText (·.take n) s
  | .right, [s, n] => do
      let s ← s.asText
      let n ← count n
      return mapText (fun cs => cs.drop (cs.length - n)) s
  | .mid, s :: start :: rest => do
      let s ← s.asText
      let start ← count start
      if start = 0 then fault .improperArgument
      match rest with
      | [] => return middle s start maxTextLength
      | n :: _ => return middle s start (← count n)
  | .min, first :: rest => do
      return .number (← foldNumbers smaller (← first.asNumber) rest)
  | .max, first :: rest => do
      return .number (← foldNumbers larger (← first.asNumber) rest)
  | f, [arg] =>
      if f.paramType 0 = .number then do f.applyNumber (← arg.asNumber)
      else do f.applyText (← arg.asText)
  | _, _ => fault .typeMismatch

/-! ## Expressions -/

mutual

/-- The value of an expression for given variables. -/
def Expr.eval (vars : Variables) : Expr → Evaluated Value
  | .number n => finiteValue n
  | .text s => .ok (.text s)
  | .var v => .ok (vars.valueOf v.key v.type)
  | .unary op arg => do op.apply (← arg.eval vars)
  | .binary op lhs rhs => do
      let a ← lhs.eval vars
      let b ← rhs.eval vars
      op.apply a b
  | .call f args => do f.apply (← Expr.evalAll vars args)

/-- The values of expressions, from the left. -/
def Expr.evalAll (vars : Variables) : List Expr → Evaluated (List Value)
  | [] => .ok []
  | e :: rest => do
      let v ← e.eval vars
      let vs ← Expr.evalAll vars rest
      return v :: vs

end

end LineBasic
