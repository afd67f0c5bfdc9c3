import TripQuery.Proofs.Search.Aim
import TripQuery.Proofs.Search.Assembly
import TripQuery.Proofs.Search.Balance

namespace TripQuery

/-!
# Weights without a sum

The check of weights turns down a sum that is too far from one. Infinities of opposite signs have no
sum, nor have weights that are no numbers, and what is no number is not far from anything: such
weights pass. A sum that is a number passes only within the tolerance.
-/

namespace Weights

open Double

variable {w : Weights}

/-- What passes is a sum within the tolerance, or none at all. -/
theorem check_eq_ok_self_iff :
    w.check = .ok w ↔ w.sum.isNaN = true ∨ (w.sum - 1.0).abs ≤ tolerance := by
  rw [check_eq_ok_iff, and_iff_right rfl]
  constructor
  · intro hnear
    cases hnan : w.sum.isNaN with
    | true => exact Or.inl rfl
    | false =>
        obtain ⟨hfinite, -⟩ := abs_exactValue_sub_one_le (isNaN_eq_false_iff.mp hnan) hnear
        exact Or.inr (abs_sub_one_le hfinite hnear)
  · rintro (hnan | hle)
    · exact not_lt_of_isNaN (isNaN_abs (isNaN_sub hnan 1.0))
    · exact not_lt_of_le hle

end Weights

/-- The weights of a search are those that were checked. -/
theorem Query.check_of_search {q : Query} {now : Instant} {n : Nat} {s : Search} {w : Weights}
    (hs : (q.search now n).outcome = .ok s) (hw : s.weights = some w) : w.check = .ok w := by
  obtain ⟨i, -, hassemble⟩ := search_eq_ok_iff.mp hs
  obtain ⟨⟨c, ws⟩, preferred, unpreferred, banned, haim, -, -, -, rfl, -⟩ :=
    assemble_eq_ok_iff.mp hassemble
  have hws : ws = some w := hw
  subst hws
  exact (fits_of_aim haim).2

namespace Weights

open Double

/-- Weights pass the check, as they are, exactly when their sum is within the tolerance of one or is
no number. So the sum of weights that passed, or of those of a search, is within the tolerance, as
it is computed and exactly, just when it is a number. Finite weights have such a sum. -/
theorem sum_near_one_unless_missing (w : Weights) :
    (∀ v, w.check = .ok v ↔
      v = w ∧ (w.sum.isNaN = true ∨ (w.sum - 1.0).abs ≤ tolerance)) ∧
    (∀ (q : Query) (now : Instant) (n : Nat) (s : Search),
      (q.search now n).outcome = .ok s → s.weights = some w → w.check = .ok w) ∧
    (w.check = .ok w → (w.sum.isNaN = false ↔
      w.sum.isFinite = true ∧ (w.sum - 1.0).abs ≤ tolerance ∧
        |exactValue w.sum - 1| ≤ exactValue tolerance)) ∧
    (w.safety.isFinite = true → w.slope.isFinite = true → w.time.isFinite = true →
      w.sum.isNaN = false) := by
  refine ⟨fun v => ?_, fun q now n s => Query.check_of_search, fun hcheck => ?_,
    isNaN_sum_of_isFinite⟩
  · constructor
    · intro h
      obtain ⟨rfl, -⟩ := check_eq_ok_iff.mp h
      exact ⟨rfl, check_eq_ok_self_iff.mp h⟩
    · rintro ⟨rfl, h⟩
      exact check_eq_ok_self_iff.mpr h
  · constructor
    · intro hnan
      obtain ⟨-, hnear⟩ := check_eq_ok_iff.mp hcheck
      obtain ⟨hfinite, hexact⟩ := abs_exactValue_sub_one_le (isNaN_eq_false_iff.mp hnan) hnear
      exact ⟨hfinite, abs_sub_one_le hfinite hnear, hexact⟩
    · rintro ⟨hfinite, -⟩
      exact isNaN_eq_false_iff.mpr (unpack_ne_notANumber_of_isFinite hfinite)

set_option maxRecDepth 2048 in
/-- Weights of which one is no number, and weights of which two are infinite, pass and are searched
with, though their sums are not within the tolerance of one. -/
theorem missing_sum_passes :
    ∃ (noNumber infinite : Weights) (q : Query) (s t : Search),
      noNumber.check = .ok noNumber ∧ ¬ (noNumber.sum - 1.0).abs ≤ tolerance ∧
        infinite.check = .ok infinite ∧ ¬ (infinite.sum - 1.0).abs ≤ tolerance ∧
          (q.search .quarterToNine 0).outcome = .ok s ∧ s.weights = some noNumber ∧
            (q.search .quarterToNine 1).outcome = .ok t ∧ t.weights = some infinite := by
  let q := ((Query.empty.set .triangleSafetyFactor [.nan, .inf]).set
    .triangleSlopeFactor [0.0, -.inf]).set .triangleTimeFactor [0.0, 1.0]
  let noNumber : Weights := ⟨.nan, 0.0, 0.0⟩
  let infinite : Weights := ⟨.inf, -.inf, 1.0⟩
  let s := q.draft 0 .quarterToNine (.triangle, some noNumber) [] [] []
  let t := q.draft 1 .quarterToNine (.triangle, some infinite) [] [] []
  have hs : (q.search .quarterToNine 0).outcome = .ok s := rfl
  have ht : (q.search .quarterToNine 1).outcome = .ok t := rfl
  have hnoNumber : ¬ (noNumber.sum - 1.0).abs ≤ tolerance := by decide +kernel
  have hinfinite : ¬ (infinite.sum - 1.0).abs ≤ tolerance := by decide +kernel
  exact ⟨noNumber, infinite, q, s, t, Query.check_of_search hs rfl, hnoNumber,
    Query.check_of_search ht rfl, hinfinite, hs, rfl, ht, rfl⟩

end Weights

end TripQuery
