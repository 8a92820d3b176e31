import LineBasic.Number.Shortest

/-!
# Numbers in writing

A number is shown in two notations. A BASIC program prints it in plain digits, however many that
takes. A JSON document marks every number as one with a fraction, and turns to a power of ten for
the very large and the very small. Both write the fewest digits that read back.

## Main definitions

* `Notation`: the choices in which notations differ.
* `Notation.plain`, `Notation.json`: the two notations.
* `Notation.write`: a double in a notation.
-/

namespace LineBasic.Number

/-- The choices that make a way of writing doubles. -/
structure Notation where
  /-- Which digits a value half-way between two shortest ones has. -/
  tie : Tie
  /-- The powers of ten of a leading digit that are written out in places. -/
  positional : Int → Bool
  /-- What follows the digits of a number without a fraction. -/
  wholeMark : String
  /-- Whether zero shows its sign. -/
  signedZero : Bool
  /-- What stands before a power of ten that is not negative. -/
  powerSign : String
  /-- The text for what is no number, and those for the infinities. -/
  undefined : String
  infinite : String
  negativeInfinite : String

/-- The notation of a BASIC program: plain digits of any length, and one zero. -/
def Notation.plain : Notation where
  tie := .up
  positional _ := true
  wholeMark := ""
  signedZero := false
  powerSign := ""
  undefined := "NaN"
  infinite := "inf"
  negativeInfinite := "-inf"

/--
The notation of a JSON document: numbers without a fraction end in `.0`, leading digits from
`10 ^ -5` to `10 ^ 15` are written in places, and what is no finite number is `null`.
-/
def Notation.json : Notation where
  tie := .even
  positional power := -5 ≤ power ∧ power ≤ 15
  wholeMark := ".0"
  signedZero := true
  powerSign := "+"
  undefined := "null"
  infinite := "null"
  negativeInfinite := "null"

/-- A text of `n` zeros. -/
def zeros (n : Nat) : String := String.ofList (List.replicate n '0')

/-- The digits of a decimal in places, with `wholeMark` behind a number without a fraction. -/
def Decimal.inPlaces (d : Decimal) (wholeMark : String) : String :=
  let digits := (Nat.repr d.digits).toList
  match d.exponent with
  | .ofNat up => String.ofList digits ++ zeros up ++ wholeMark
  | .negSucc below =>
      let places := below + 1
      if places < digits.length then
        let point := digits.length - places
        String.ofList (digits.take point) ++ "." ++ String.ofList (digits.drop point)
      else "0." ++ zeros (places - digits.length) ++ String.ofList digits

/-- The digits of a decimal as one digit, a point and the rest, with the power of ten. -/
def Decimal.withPower (d : Decimal) (power : Int) (powerSign : String) : String :=
  let head := match (Nat.repr d.digits).toList with
    | first :: second :: rest => String.ofList (first :: '.' :: second :: rest)
    | digits => String.ofList digits
  let exponent := if power < 0 then "-" ++ Nat.repr power.natAbs
    else powerSign ++ Nat.repr power.natAbs
  head ++ "e" ++ exponent

/-- The power of ten of the leading digit. -/
def Decimal.power (d : Decimal) : Int :=
  d.exponent + (Nat.repr d.digits).length - 1

/-- A decimal in a notation, without a sign. -/
def Notation.writeDecimal (n : Notation) (d : Decimal) : String :=
  if d.digits = 0 then "0" ++ n.wholeMark
  else if n.positional d.power then d.inPlaces n.wholeMark
  else d.withPower d.power n.powerSign

/-- A double in a notation. -/
def Notation.write (n : Notation) (x : Float) : String :=
  match exact x with
  | .undefined => n.undefined
  | .infinite negative => if negative then n.negativeInfinite else n.infinite
  | .finite negative mantissa exponent =>
      let sign := if negative ∧ (mantissa ≠ 0 ∨ n.signedZero) then "-" else ""
      sign ++ n.writeDecimal (shortest n.tie mantissa exponent)

end LineBasic.Number
