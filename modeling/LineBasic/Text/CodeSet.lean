/-!
# Sets of characters given by their bounds

A property of characters is a set of codes, and most such sets are runs of neighbours. A set is
kept as the ascending list of the codes at which membership changes: the first bound begins a run,
the second is the first code behind it, and so on.
-/

namespace LineBasic.Text

/-- A set of characters, as the ascending list of codes at which membership changes. -/
structure CodeSet where
  bounds : List Nat

/-- A character is in the set when an odd number of bounds lies at or below its code. -/
def CodeSet.contains (s : CodeSet) (c : Char) : Bool :=
  s.bounds.countP (· ≤ c.toNat) % 2 == 1

end LineBasic.Text
