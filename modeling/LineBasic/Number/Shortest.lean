import LineBasic.Number.Binary

/-!
# The fewest digits that read back

A finite double is written with the fewest decimal digits that still name it among all doubles, and
of several such texts with the one nearest to its value. The doubles next to it fix an interval of
reals that round to it; the rule is then about grids: on the coarsest grid of powers of ten that has
a point in the interval, the digits are those of the point nearest to the value. A value half-way
between two points of that grid is decided by `Tie`.

## Main definitions

* `Decimal`: a number of the form `digits * 10 ^ exponent`.
* `shortest`: the decimal of fewest digits for `mantissa * 2 ^ exponent`.
-/

namespace LineBasic.Number

/-- A decimal `digits * 10 ^ exponent`. -/
structure Decimal where
  digits : Nat
  exponent : Int
deriving DecidableEq, Repr

/-- Which neighbour a value half-way between two grid points takes. -/
inductive Tie where
  | up
  | even
deriving DecidableEq, Repr

/-- The power `base ^ e` as a fraction, numerator first. -/
def powFraction (base : Nat) : Int → Nat × Nat
  | .ofNat e => (base.pow e, 1)
  | .negSucc e => (1, base.pow (e + 1))

/--
The reals that round to a double, in quarters of the unit of its last place: from `low` to `high`,
around `value`. The ends belong to it when `closed`.
-/
structure Interval where
  low : Nat
  value : Nat
  high : Nat
  closed : Bool

/--
The interval of `mantissa * 2 ^ exponent`. The gap below a power of two is half the gap above it,
except for the smallest normal double. The ends round to an even mantissa.
-/
def Interval.ofMantissa (mantissa : Nat) (exponent : Int) : Interval :=
  let below := if mantissa = Nat.pow 2 52 ∧ exponent ≠ -1074 then 1 else 2
  ⟨4 * mantissa - below, 4 * mantissa, 4 * mantissa + 2, mantissa % 2 = 0⟩

/-- Whether a point, in the unit of the interval, lies in it: `point / den` against its ends. -/
def Interval.holds (i : Interval) (point den : Nat) : Bool :=
  if i.closed then i.low * den ≤ point ∧ point ≤ i.high * den
  else i.low * den < point ∧ point < i.high * den

/--
The point of the grid `10 ^ place` that stands for the interval, if there is one: of the two
neighbours of the value those inside the interval, the nearer of them, and on a tie as `tie` says.
The unit of the interval is `num / den`.
-/
def Interval.gridPoint? (i : Interval) (tie : Tie) (num den : Nat) (place : Int) : Option Nat :=
  let (stepNum, stepDen) := powFraction 10 place
  -- A grid point `c` is `c * stepNum * den / (stepDen * num)` units of the interval.
  let step := stepNum * den
  let scale := stepDen * num
  let lower := i.value * scale / step
  let upper := lower + 1
  match i.holds (lower * step) scale, i.holds (upper * step) scale with
  | false, false => none
  | true, false => some lower
  | false, true => some upper
  | true, true =>
      let twice := 2 * (i.value * scale)
      let middle := (lower + upper) * step
      if twice < middle then some lower
      else if middle < twice then some upper
      else match tie with
        | .up => some upper
        | .even => some (if lower % 2 = 0 then lower else upper)

/-- The first grid with a point in the interval, from `place` downwards. -/
def Interval.coarsest? (i : Interval) (tie : Tie) (num den : Nat) :
    (tries : Nat) → (place : Int) → Option Decimal
  | 0, _ => none
  | tries + 1, place =>
      match i.gridPoint? tie num den place with
      | some digits => some ⟨digits, place⟩
      | none => i.coarsest? tie num den tries (place - 1)

/-- A power of ten above `mantissa * 2 ^ exponent`: three tenths of a digit to the bit, rounded
up. -/
def decimalBound (mantissa : Nat) (exponent : Int) : Int :=
  (((mantissa.log2 : Int) + 1 + exponent) * 30103) / 100000 + 2

/--
The decimal of fewest digits among those that read back as the double
`mantissa * 2 ^ exponent`, and the nearest of them. Its digits do not end in a zero, as a coarser
grid would have had that point.

Seventeen digits always suffice, and `decimalBound` starts at most three places above the first.
-/
def shortest (tie : Tie) (mantissa : Nat) (exponent : Int) : Decimal :=
  if mantissa = 0 then ⟨0, 0⟩
  else
    let (num, den) := powFraction 2 (exponent - 2)
    ((Interval.ofMantissa mantissa exponent).coarsest? tie num den 24
      (decimalBound mantissa exponent)).getD ⟨0, 0⟩

end LineBasic.Number
