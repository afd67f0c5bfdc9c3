namespace TripQuery

/-!
# Triangle weights

A search by triangle weighs safety, slope and time against each other. The weights are meant to
sum to one; the sum that counts is the one computed from left to right.
-/

structure Weights where
  safety : Float
  slope : Float
  time : Float

namespace Weights

/-- The largest distance from one at which a sum is accepted: three units in the last place of
one, `3 * 2 ^ -52`. -/
def tolerance : Float := Float.ofBits 0x3CC8000000000000

def sum (w : Weights) : Float := w.safety + w.slope + w.time

/-- The weights, unless their sum is further from one than the tolerance; then the sum. -/
def check (w : Weights) : Except Float Weights :=
  if tolerance < (w.sum - 1.0).abs then .error w.sum else .ok w

theorem check_eq_ok_iff {w v : Weights} :
    w.check = .ok v ↔ v = w ∧ ¬ tolerance < (w.sum - 1.0).abs := by
  unfold check
  split <;> simp_all [eq_comm]

end Weights

end TripQuery
