import LineBasic.Number.Binary

/-!
# Rounding to an integer

BASIC rounds in three ways: to the nearest integer with halves going away from zero (integer
variables, counts, codes), down (`INT`) and towards zero (`FIX`). Each is decided on the exact
value, so none depends on how a machine instruction treats a half. A result of zero keeps the sign
of its argument, as the sign of a double is visible to later operations.

## Main definitions

* `nearest?`: the nearest integer, as an `Int`; none for an infinity or no number.
* `round`, `floor`, `trunc`: the three roundings, as doubles; what is no finite number is kept.
* `whole?`: the integer that a double is, if it is one.
-/

namespace LineBasic.Number

/-- The double `± n`. Zero may be negative. -/
def ofMagnitude (negative : Bool) (n : Nat) : Float :=
  if negative then -(Float.ofNat n) else Float.ofNat n

/-- The integer `± n`. -/
def signed (negative : Bool) (n : Nat) : Int :=
  if negative then -(n : Int) else n

namespace Split

/-- The whole part, one more if the fraction is at least a half. -/
def nearest (s : Split) : Nat :=
  if s.scale ≤ 2 * s.part then s.whole + 1 else s.whole

/-- The whole part of the value rounded down: one more if it is negative and has a fraction. -/
def below (s : Split) : Nat :=
  if s.negative ∧ s.part ≠ 0 then s.whole + 1 else s.whole

end Split

/-- The integer nearest to a finite double, a half going away from zero. -/
def nearest? (x : Float) : Option Int :=
  (split? x).map fun s => signed s.negative s.nearest

/-- The double nearest to `x` that is an integer, a half going away from zero. -/
def round (x : Float) : Float :=
  match split? x with
  | none => x
  | some s => if s.part = 0 then x else ofMagnitude s.negative s.nearest

/-- The largest integer that is not above `x`. -/
def floor (x : Float) : Float :=
  match split? x with
  | none => x
  | some s => if s.part = 0 then x else ofMagnitude s.negative s.below

/-- The integer part of `x`: its digits behind the point are dropped. -/
def trunc (x : Float) : Float :=
  match split? x with
  | none => x
  | some s => if s.part = 0 then x else ofMagnitude s.negative s.whole

/-- The integer that `x` is, if it has no fraction. -/
def whole? (x : Float) : Option Int :=
  match split? x with
  | some s => if s.part = 0 then some (signed s.negative s.whole) else none
  | none => none

/-! ## What the roundings keep -/

@[simp] theorem nearest?_eq_none_iff {x : Float} : nearest? x = none ↔ split? x = none := by
  simp [nearest?]

/-- A double without a fraction is its own nearest integer. -/
theorem nearest?_of_whole? {x : Float} {k : Int} (h : whole? x = some k) : nearest? x = some k := by
  unfold whole? at h
  unfold nearest?
  split at h
  · next s hs =>
    split at h
    · next hp =>
      have hlt := s.part_lt_scale
      have hn : s.nearest = s.whole := by
        unfold Split.nearest
        rw [if_neg (by omega)]
      rw [hs, Option.map_some, hn]
      exact h
    · exact absurd h (by simp)
  · exact absurd h (by simp)

end LineBasic.Number
