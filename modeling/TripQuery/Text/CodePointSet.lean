namespace TripQuery

/-!
# Sets of code points

A set of code points is kept as the increasing list of the points at which membership changes:
the first change enters the set, the second leaves it, and so on.
-/

/-- A set of code points, by the points at which membership changes. -/
structure CodePointSet where
  changes : List Nat

namespace CodePointSet

/-- A code point is in the set when an odd number of changes lies at or below it. -/
def contains (s : CodePointSet) (n : Nat) : Bool :=
  s.changes.countP (· ≤ n) % 2 == 1

@[simp] theorem contains_nil (n : Nat) : (mk []).contains n = false := rfl

end CodePointSet

end TripQuery
