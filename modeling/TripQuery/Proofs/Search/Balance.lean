import TripQuery.Proofs.Double.Rounding
import TripQuery.Search.Weights

namespace TripQuery

/-!
# Weights that sum to one

The check of weights computes how far their sum is from one, and rounds. A sum that passes is a
finite number all the same, and so near to one that nothing was rounded: its exact distance is
within the tolerance. A sum far from one stays far from it by rounding.
-/

namespace Weights

open Float.Model (Format UnpackedFloat)
open Float.Model.UnpackedFloat
open Double

variable {x : Float} {s : Sign} {m : Nat} {e : Int}

theorem unpack_one :
    (1.0 : Float).toModel.unpack = .finite .positive (2 ^ 52) (-52) (Nat.two_pow_pos 52) := by
  have hbits : (1.0 : Float).toBits = 0x3FF0000000000000 := by decide +kernel
  change unpack Format.binary64 (1.0 : Float).toBits.toBitVec = _
  rw [hbits]
  rfl

theorem unpack_tolerance :
    tolerance.toModel.unpack = .finite .positive (3 * 2 ^ 51) (-103) (by decide) := by
  have hbits : tolerance.toBits = 0x3CC8000000000000 := by decide +kernel
  change unpack Format.binary64 tolerance.toBits.toBitVec = _
  rw [hbits]
  rfl

/-- A difference from one that is too large. -/
theorem tolerance_lt_of_sub {f : Nat} {d : Int} {hf : 0 < f}
    (h : sub Format.binary64 x.toModel.unpack (1.0 : Float).toModel.unpack = .finite s f d hf)
    (hfull : IsFull f) (hd : -103 < d ∨ d = -103 ∧ 3 * 2 ^ 51 < f) :
    tolerance < (x - 1.0).abs := by
  have hmin : -1074 ≤ d := by omega
  rw [lt_iff, unpack_abs, unpack_sub, h, unpack_tolerance]
  rcases packed_of_normal s hf hfull hmin with hp | hp
  · rw [hp, UnpackedFloat.abs]
    rcases packed_of_normal .positive hf hfull hmin with hq | hq
    · rw [hq, UnpackedFloat.compare]
      rcases hd with hd | ⟨rfl, hf'⟩
      · rw [Int.compare_eq_lt.mpr hd]
        rfl
      · rw [Nat.compare_eq_lt.mpr hf']
        rfl
    · rw [hq]
      rfl
  · rw [hp, UnpackedFloat.abs, packed_infinity]
    rfl

/-- The difference from one, in units of the finer of the two last places. -/
def excess (s : Sign) (m : Nat) (e : Int) : Int :=
  s.apply (m <<< (e - min e (-52)).toNat : Nat) - (2 ^ 52 <<< (-52 - min e (-52)).toNat : Nat)

theorem sub_one_of_finite {hm : 0 < m} (h : x.toModel.unpack = .finite s m e hm) :
    sub Format.binary64 x.toModel.unpack (1.0 : Float).toModel.unpack =
      UnpackedFloat.normalize Format.binary64 (excess s m e) (min e (-52)) .positive := by
  rw [h, unpack_one]
  rfl

theorem log2_excess_le {hm : 0 < m} (h : x.toModel.unpack = .finite s m e hm)
    (hnear : ¬ tolerance < (x - 1.0).abs) (hne : excess s m e ≠ 0) :
    min e (-52) + (excess s m e).natAbs.log2 ≤ -51 := by
  by_contra hfar
  -- Rounding keeps the power of two below the difference, and that one is past the tolerance.
  obtain ⟨t, f, d, hf, hround, hfull, hd⟩ :=
    normalize_of_le (e := min e (-52)) hne (by omega) .positive
  rw [← sub_one_of_finite h] at hround
  exact hnear (tolerance_lt_of_sub hround hfull (Or.inl (by omega)))

theorem natAbs_apply (s : Sign) (m : Nat) : (s.apply m).natAbs = m := by
  cases s <;> simp [Sign.apply]

/-- A double below one half is at least one half away from one. -/
theorem neg_fifty_three_le {hm : 0 < m} (h : x.toModel.unpack = .finite s m e hm)
    (hnear : ¬ tolerance < (x - 1.0).abs) : -53 ≤ e := by
  have hlt : m < 2 ^ 53 := lt_of_unpack_eq_finite h
  by_contra he
  obtain ⟨k, rfl⟩ : ∃ k : Nat, e = -54 - k := ⟨(-54 - e).toNat, by omega⟩
  have hmin : min (-54 - (k : Int)) (-52) = -54 - k := by omega
  have hone : 2 ^ 52 <<< (-52 - (-54 - (k : Int))).toNat = 2 ^ 54 * 2 ^ k := by
    rw [show (-52 - (-54 - (k : Int))).toNat = k + 2 by omega, Nat.shiftLeft_eq]
    ring
  have happly := natAbs_apply s m
  have hpow : 1 ≤ 2 ^ k := Nat.one_le_two_pow
  have habs : 2 ^ 53 * 2 ^ k ≤ (excess s m (-54 - k)).natAbs := by
    rw [excess, hmin, hone, Int.sub_self]
    change 2 ^ 53 * 2 ^ k ≤ (s.apply m - (2 ^ 54 * 2 ^ k : Nat)).natAbs
    omega
  have hlog : 53 + k ≤ (excess s m (-54 - k)).natAbs.log2 := by
    rw [← Nat.pow_add] at habs
    exact (Nat.le_log2 (Nat.ne_of_gt ((Nat.two_pow_pos _).trans_le habs))).mpr habs
  have hle := log2_excess_le h hnear (by omega)
  omega

/-- Seven halves of the last place of one are too many already. -/
theorem exists_normalize_of_natAbs_eq_seven {n : Int} (hn : n.natAbs = 7) :
    ∃ t, UnpackedFloat.normalize Format.binary64 n (min (-53) (-52)) .positive =
      .finite t (7 * 2 ^ 50) (-103) (by decide) := by
  rcases Int.natAbs_eq_iff.mp hn with rfl | rfl
  · exact ⟨.positive, rfl⟩
  · exact ⟨.negative, rfl⟩

/-- Near one, the difference is a few units of the last place, and is not rounded. -/
theorem excess_bounds {hm : 0 < m} (h : x.toModel.unpack = .finite s m e hm)
    (hnear : ¬ tolerance < (x - 1.0).abs) :
    -52 ≤ e ∧ (excess s m e).natAbs ≤ 3 ∨ e = -53 ∧ (excess s m e).natAbs ≤ 6 := by
  have he := neg_fifty_three_le h hnear
  by_cases hne : excess s m e = 0
  · rw [hne]
    omega
  have hlog := log2_excess_le h hnear hne
  have hpos : (excess s m e).natAbs ≠ 0 := Int.natAbs_ne_zero.mpr hne
  -- One half of the last place is a unit only below one.
  by_cases hhalf : e = -53
  · have hlt : (excess s m e).natAbs < 2 ^ 3 := (Nat.log2_lt hpos).mp (by omega)
    have hseven : (excess s m e).natAbs ≠ 7 := by
      intro hseven
      have hsub := sub_one_of_finite h
      obtain ⟨t, hround⟩ := exists_normalize_of_natAbs_eq_seven hseven
      rw [hhalf] at hsub hround
      exact hnear (tolerance_lt_of_sub (hsub.trans hround) ⟨by decide, by decide⟩
        (Or.inr (by decide)))
    omega
  · have hlt : (excess s m e).natAbs < 2 ^ 2 := (Nat.log2_lt hpos).mp (by omega)
    omega

theorem exactValue_sub_one {hm : 0 < m} (h : x.toModel.unpack = .finite s m e hm) :
    exactValue x - 1 = excess s m e * 2 ^ min e (-52) := by
  have hx := apply_shiftLeft_mul s m (min_le_left e (-52))
  have hone := apply_shiftLeft_mul .positive (2 ^ 52) (min_le_right e (-52))
  have hpow : ((Sign.positive.apply (2 ^ 52 : Nat) : Int) : ℚ) * 2 ^ (-52 : Int) = 1 := by
    norm_num [Sign.apply]
  rw [exactValue_of_finite h, excess, Int.cast_sub, sub_mul, hx]
  rw [hpow] at hone
  exact congrArg _ hone.symm

theorem exactValue_tolerance : exactValue tolerance = 3 * 2 ^ (-52 : Int) := by
  rw [exactValue_of_finite unpack_tolerance]
  norm_num [Sign.apply]

/-- A sum that passes is not infinite, not zero, and within the tolerance of one. -/
theorem abs_exactValue_sub_one_le (hnan : x.toModel.unpack ≠ .notANumber)
    (hnear : ¬ tolerance < (x - 1.0).abs) :
    x.isFinite = true ∧ |exactValue x - 1| ≤ exactValue tolerance := by
  cases hx : x.toModel.unpack with
  | notANumber => exact absurd hx hnan
  | infinity s =>
      apply absurd _ hnear
      rw [lt_iff, unpack_abs, unpack_sub, hx, unpack_one, unpack_tolerance]
      cases s <;> rfl
  | zero s =>
      apply absurd _ hnear
      have hsub : sub Format.binary64 x.toModel.unpack (1.0 : Float).toModel.unpack =
          .finite .negative (2 ^ 52) (-52) (Nat.two_pow_pos 52) := by
        rw [hx, unpack_one]
        rfl
      exact tolerance_lt_of_sub hsub ⟨by decide, by decide⟩ (Or.inl (by decide))
  | finite s m e hm =>
      refine ⟨congrArg UnpackedFloat.isFinite hx, ?_⟩
      rw [exactValue_sub_one hx, exactValue_tolerance, abs_mul, abs_zpow, abs_two, ← Int.cast_abs,
        Int.abs_eq_natAbs, Int.cast_natCast]
      rcases excess_bounds hx hnear with ⟨he, hle⟩ | ⟨rfl, hle⟩
      · rw [min_eq_right he]
        have hcast : ((excess s m e).natAbs : ℚ) ≤ 3 := by exact_mod_cast hle
        gcongr
      · have hcast : ((excess s m (-53)).natAbs : ℚ) ≤ 6 := by exact_mod_cast hle
        rw [min_eq_left (by decide)]
        calc ((excess s m (-53)).natAbs : ℚ) * 2 ^ (-53 : Int)
            ≤ 6 * 2 ^ (-53 : Int) := by gcongr
          _ = 3 * 2 ^ (-52 : Int) := by norm_num

theorem sub_one_ne_notANumber (hx : x.isFinite = true) :
    sub Format.binary64 x.toModel.unpack (1.0 : Float).toModel.unpack ≠ .notANumber := by
  change x.toModel.unpack.isFinite = true at hx
  cases hu : x.toModel.unpack with
  | notANumber => rw [hu] at hx; cases hx
  | infinity s => rw [hu] at hx; cases hx
  | zero s => rw [unpack_one]; exact UnpackedFloat.noConfusion
  | finite s m e hm =>
      rw [← hu, sub_one_of_finite hu]
      exact normalize_ne_notANumber _ _ _

theorem abs_sub_one_le (hx : x.isFinite = true) (hnear : ¬ tolerance < (x - 1.0).abs) :
    (x - 1.0).abs ≤ tolerance := by
  refine le_of_not_lt ?_ ?_ hnear
  · rw [unpack_tolerance]
    exact UnpackedFloat.noConfusion
  · rw [unpack_abs, unpack_sub]
    apply packed_ne_notANumber
    apply abs_ne_notANumber
    apply packed_ne_notANumber
    exact sub_one_ne_notANumber hx

/-- Weights that are finite, and whose sum is a number within the tolerance of one: as it is
computed, and exactly. -/
structure IsBalanced (w : Weights) : Prop where
  safety : w.safety.isFinite = true
  slope : w.slope.isFinite = true
  time : w.time.isFinite = true
  sum : w.sum.isFinite = true
  computed : (w.sum - 1.0).abs ≤ tolerance
  near : |exactValue w.sum - 1| ≤ exactValue tolerance

/-- The sum of two finite weights may be infinite, but the sum of all three is a number. -/
theorem isNaN_sum_of_isFinite {w : Weights} (hsafety : w.safety.isFinite = true)
    (hslope : w.slope.isFinite = true) (htime : w.time.isFinite = true) :
    w.sum.isNaN = false := by
  have htwo : (w.safety + w.slope).toModel.unpack ≠ .notANumber :=
    unpack_add_ne_notANumber (unpack_ne_notANumber_of_isFinite hsafety) hslope
  exact isNaN_eq_false_iff.mpr (unpack_add_ne_notANumber htwo htime)

/-- Finite weights that pass the check are balanced. -/
theorem isBalanced_of_check {w : Weights} (hsafety : w.safety.isFinite = true)
    (hslope : w.slope.isFinite = true) (htime : w.time.isFinite = true)
    (hcheck : w.check = .ok w) : w.IsBalanced := by
  obtain ⟨-, hnear⟩ := check_eq_ok_iff.mp hcheck
  have hsum := isNaN_eq_false_iff.mp (isNaN_sum_of_isFinite hsafety hslope htime)
  obtain ⟨hfinite, hexact⟩ := abs_exactValue_sub_one_le hsum hnear
  exact ⟨hsafety, hslope, htime, hfinite, abs_sub_one_le hfinite hnear, hexact⟩

end Weights

end TripQuery
