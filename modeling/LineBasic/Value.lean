import LineBasic.Number.Notation

/-!
# Values

BASIC has two types, numbers and texts, and the type of every expression is known before it runs.
A value is shown as a program would print it, without the spaces around a number.
-/

namespace LineBasic

/-- The two types of values. -/
inductive ValueType where
  | number
  | text
deriving DecidableEq, Repr

/-- A BASIC value. -/
inductive Value where
  | number (n : Float)
  | text (s : String)
deriving DecidableEq, Repr

namespace Value

/-- The type of a value. -/
def type : Value → ValueType
  | number _ => .number
  | text _ => .text

/-- The value of a variable of a type before anything is assigned to it. -/
def ofType : ValueType → Value
  | .number => number 0.0
  | .text => text ""

/-- The number of a numeric value. -/
def number? : Value → Option Float
  | number n => some n
  | text _ => none

/-- The text of a text value. -/
def text? : Value → Option String
  | number _ => none
  | text s => some s

/-- A value counts as true when it is a number other than zero or a text that is not empty. -/
def isTruthy : Value → Bool
  | number n => n != 0.0
  | text s => s != ""

/-- The text of a value: a number in plain digits, a text as it is. -/
def toText : Value → String
  | number n => Number.Notation.plain.write n
  | text s => s

@[simp] theorem type_ofType (t : ValueType) : (ofType t).type = t := by cases t <;> rfl

end Value

end LineBasic
