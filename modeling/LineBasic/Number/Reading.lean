import LineBasic.Number.Binary

/-!
# Reading decimal numbers

A decimal numeral is digits with an optional point and an optional power of ten. Its value is the
double nearest to it, so a numeral above the range of doubles reads as infinity and one far below
it as zero.

## Main definitions

* `Numeral`: the digits, the places behind the point and the power of ten of a numeral.
* `Numeral.value`: the nearest double.
* `signedNumeral?`: reads a text that is one signed numeral.
-/

namespace LineBasic.Number

/-- The decimal digits, `0` to `9`. -/
def isDigit (c : Char) : Bool := '0' ≤ c ∧ c ≤ '9'

/-- The value of a decimal digit. -/
def digitValue (c : Char) : Nat := c.toNat - '0'.toNat

/-- The number that a run of digits denotes in a base. -/
def ofDigits (base : Nat) (digitOf : Char → Nat) (digits : List Char) : Nat :=
  digits.foldl (fun n c => n * base + digitOf c) 0

/-- The number that a run of decimal digits denotes. -/
def ofDecimalDigits (digits : List Char) : Nat := ofDigits 10 digitValue digits

/-- A decimal numeral: `whole.fraction` times ten to the `power`. -/
structure Numeral where
  whole : List Char
  fraction : List Char
  power : Int

/-- The double nearest to a numeral. -/
def Numeral.value (n : Numeral) : Float :=
  let digits := ofDecimalDigits (n.whole ++ n.fraction)
  match n.power - n.fraction.length with
  | .ofNat up => Float.ofScientific digits false up
  | .negSucc below => Float.ofScientific digits true (below + 1)

/-- A text that is an optional sign and digits, as an integer. -/
def signedDigits? (cs : List Char) : Option Int :=
  let (negative, digits) := match cs with
    | '-' :: rest => (true, rest)
    | '+' :: rest => (false, rest)
    | _ => (false, cs)
  if digits ≠ [] ∧ digits.all isDigit then
    let n : Int := ofDecimalDigits digits
    some (if negative then -n else n)
  else none

/--
A text that is one numeral without a sign: digits around an optional point, at least one of them,
then perhaps `e` and a signed power of ten.
-/
def numeral? (cs : List Char) : Option Numeral :=
  let whole := cs.takeWhile isDigit
  let rest := cs.dropWhile isDigit
  let (fraction, rest) := match rest with
    | '.' :: tail => (tail.takeWhile isDigit, tail.dropWhile isDigit)
    | _ => ([], rest)
  if whole ++ fraction = [] then none
  else match rest with
    | [] => some ⟨whole, fraction, 0⟩
    | mark :: tail =>
        if mark = 'e' ∨ mark = 'E' then
          (signedDigits? tail).map fun power => ⟨whole, fraction, power⟩
        else none

/-- The double that a text denotes which is one numeral with an optional sign. -/
def signedNumeral? (cs : List Char) : Option Float :=
  match cs with
  | '-' :: rest => (numeral? rest).map fun n => -n.value
  | '+' :: rest => (numeral? rest).map Numeral.value
  | _ => (numeral? cs).map Numeral.value

/-- The characters that can stand in a signed numeral. -/
def isNumeralChar (c : Char) : Bool :=
  isDigit c || c = '.' || c = '-' || c = '+' || c = 'e' || c = 'E'

/--
The number at the start of a text: the longest run of characters that is a signed numeral. A text
that starts with none counts as zero.
-/
def leading (cs : List Char) : Float :=
  let candidate := cs.takeWhile isNumeralChar
  let lengths := (List.range (candidate.length + 1)).reverse
  (lengths.findSome? fun n => signedNumeral? (candidate.take n)).getD 0.0

/-- The natural number that a text of decimal digits denotes, a leading plus sign allowed. -/
def natural? (cs : List Char) : Option Nat :=
  let digits := match cs with
    | '+' :: rest => rest
    | _ => cs
  if digits ≠ [] ∧ digits.all isDigit then some (ofDecimalDigits digits) else none

end LineBasic.Number
