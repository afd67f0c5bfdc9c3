import TripQuery.Proofs.Double.Unpacked

namespace TripQuery

/-!
# Rounding

A result is rounded to a significand of 53 bits. Rounding never takes it below the power of two
that it has reached, and that bound is all that is needed of it here.
-/

namespace Double

open Float.Model (Format UnpackedFloat totalExponent)
open Float.Model.UnpackedFloat

variable {m : Nat} {e : Int}

theorem mantissa_shiftRight (em : ExtendedMantissa) (k : Nat) :
    (em >>> k).mantissa = em.mantissa / 2 ^ k := by
  induction k with
  | zero => exact (Nat.div_one em.mantissa).symm
  | succ k ih =>
      change (em >>> k).mantissa / 2 = em.mantissa / 2 ^ (k + 1)
      rw [ih, Nat.div_div_eq_div_mul, Nat.pow_succ]

theorem mantissa_ofMantissaAndAccuracy (m : Nat) (a : Accuracy) :
    (ExtendedMantissa.ofMantissaAndAccuracy m a).mantissa = m := by
  cases a with
  | exact => rfl
  | inexact order => cases order <;> rfl

theorem le_roundedMantissa (em : ExtendedMantissa) : em.mantissa ≤ em.roundedMantissa := by
  unfold ExtendedMantissa.roundedMantissa
  cases em.accuracy with
  | exact => exact Nat.le_refl _
  | inexact order => cases order <;> simp [Accuracy.roundToNearestEven]

theorem targetExponent_eq (t : Int) :
    Format.binary64.targetExponent t = max (t - 53) (-1074) := rfl

theorem isFull_div_two_pow (hm : 2 ^ 52 ≤ m) : IsFull (m / 2 ^ (m.log2 - 52)) := by
  have hpos : m ≠ 0 := by omega
  have hlog : 52 ≤ m.log2 := (Nat.le_log2 hpos).mpr hm
  have hlow : 2 ^ 52 * 2 ^ (m.log2 - 52) ≤ m := by
    rw [← Nat.pow_add, Nat.add_sub_cancel' hlog]
    exact Nat.log2_self_le hpos
  have hhigh : m < 2 ^ 53 * 2 ^ (m.log2 - 52) := by
    rw [← Nat.pow_add, show 53 + (m.log2 - 52) = m.log2 + 1 by omega]
    exact Nat.lt_log2_self
  exact ⟨(Nat.le_div_iff_mul_le (Nat.two_pow_pos _)).mpr hlow,
    (Nat.div_lt_iff_lt_mul (Nat.two_pow_pos _)).mpr hhigh⟩

/-- Dropping bits down to a full significand. -/
theorem shiftToTargetExponent_of_le (hm : 2 ^ 52 ≤ m) (he : -1022 ≤ e + m.log2) (a : Accuracy) :
    IsFull (shiftToTargetExponent Format.binary64 m e a).1.mantissa ∧
      (shiftToTargetExponent Format.binary64 m e a).2 = e + m.log2 - 52 := by
  have hlog : 52 ≤ m.log2 := (Nat.le_log2 (by omega)).mpr hm
  have hamount : (Format.binary64.targetExponent (totalExponent m e) - e).toNat = m.log2 - 52 := by
    rw [targetExponent_eq, totalExponent]
    omega
  simp only [shiftToTargetExponent, shiftToExponent, hamount, mantissa_shiftRight,
    mantissa_ofMantissaAndAccuracy]
  exact ⟨isFull_div_two_pow hm, by omega⟩

theorem roundWithAccuracy_of_le (s : Sign) (hm : 2 ^ 52 ≤ m) (he : -1022 ≤ e + m.log2)
    (a : Accuracy) :
    ∃ f d hf, roundWithAccuracy Format.binary64 s m e a = .finite s f d hf ∧
      IsFull f ∧ e + m.log2 - 52 ≤ d := by
  obtain ⟨hfull, hexponent⟩ := shiftToTargetExponent_of_le hm he a
  have hrounded := hfull.1.trans (le_roundedMantissa _)
  have hlog := (Nat.le_log2 (by omega)).mpr hrounded
  -- Rounding up may have carried into a bit too many, which the second shift drops.
  obtain ⟨hfull', hexponent'⟩ :=
    shiftToTargetExponent_of_le (e := e + m.log2 - 52) hrounded (by omega) .exact
  rw [← hexponent] at hfull' hexponent'
  unfold roundWithAccuracy
  dsimp only
  rw [dif_neg hfull'.pos.ne']
  exact ⟨_, _, _, rfl, hfull', by omega⟩

theorem log2_shiftLeft (hm : m ≠ 0) (k : Nat) : (m <<< k).log2 = m.log2 + k := by
  induction k with
  | zero => rfl
  | succ k ih =>
      rw [Nat.shiftLeft_succ, Nat.log2_two_mul (mt Nat.shiftLeft_eq_zero_iff.mp hm), ih,
        Nat.add_assoc]

theorem round_of_le (s : Sign) (hm : 0 < m) (he : -1022 ≤ e + m.log2) :
    ∃ f d hf, UnpackedFloat.round Format.binary64 s m e = .finite s f d hf ∧
      IsFull f ∧ e + m.log2 - 52 ≤ d := by
  have hamount : (e - Format.binary64.targetExponent (totalExponent m e)).toNat = 52 - m.log2 := by
    rw [targetExponent_eq, totalExponent]
    omega
  have hlog := log2_shiftLeft hm.ne' (52 - m.log2)
  have hshifted : 2 ^ 52 ≤ m <<< (52 - m.log2) :=
    (Nat.le_log2 (mt Nat.shiftLeft_eq_zero_iff.mp hm.ne')).mp (by omega)
  unfold UnpackedFloat.round decreaseExponent
  simp only [hamount]
  obtain ⟨f, d, hf, hround, hfull, hd⟩ :=
    roundWithAccuracy_of_le (e := e - (52 - m.log2 : Nat)) s hshifted (by omega) .exact
  exact ⟨f, d, hf, hround, hfull, by omega⟩

theorem normalize_of_le {n : Int} (hn : n ≠ 0) (he : -1022 ≤ e + n.natAbs.log2) (zero : Sign) :
    ∃ s f d hf, UnpackedFloat.normalize Format.binary64 n e zero = .finite s f d hf ∧
      IsFull f ∧ e + n.natAbs.log2 - 52 ≤ d := by
  rcases Int.lt_or_gt_of_ne hn with hneg | hpos
  · obtain ⟨f, d, hf, hround, hbounds⟩ := round_of_le .negative (Int.natAbs_pos.mpr hn) he
    refine ⟨.negative, f, d, hf, ?_, hbounds⟩
    rw [UnpackedFloat.normalize, Int.compare_eq_lt.mpr hneg, ← hround,
      show (-n).toNat = n.natAbs by omega]
  · obtain ⟨f, d, hf, hround, hbounds⟩ := round_of_le .positive (Int.natAbs_pos.mpr hn) he
    refine ⟨.positive, f, d, hf, ?_, hbounds⟩
    rw [UnpackedFloat.normalize, Int.compare_eq_gt.mpr hpos, ← hround,
      show n.toNat = n.natAbs by omega]

theorem round_ne_notANumber (s : Sign) (m : Nat) (e : Int) :
    UnpackedFloat.round Format.binary64 s m e ≠ .notANumber := by
  unfold UnpackedFloat.round roundWithAccuracy
  dsimp only
  split <;> exact UnpackedFloat.noConfusion

theorem normalize_ne_notANumber (n e : Int) (zero : Sign) :
    UnpackedFloat.normalize Format.binary64 n e zero ≠ .notANumber := by
  unfold UnpackedFloat.normalize
  split
  · exact round_ne_notANumber _ _ _
  · exact UnpackedFloat.noConfusion
  · exact round_ne_notANumber _ _ _

/-- Only infinities of opposite signs have no sum. -/
theorem add_ne_notANumber {u v : UnpackedFloat} (hu : u ≠ .notANumber) (hv : v.isFinite = true) :
    add Format.binary64 u v ≠ .notANumber := by
  cases v with
  | notANumber => cases hv
  | infinity t => cases hv
  | zero t =>
      cases u with
      | notANumber => exact absurd rfl hu
      | infinity s => exact UnpackedFloat.noConfusion
      | zero s => cases s <;> cases t <;> exact UnpackedFloat.noConfusion
      | finite s m e hm => exact UnpackedFloat.noConfusion
  | finite t n d hn =>
      cases u with
      | notANumber => exact absurd rfl hu
      | infinity s => exact UnpackedFloat.noConfusion
      | zero s => exact UnpackedFloat.noConfusion
      | finite s m e hm => exact normalize_ne_notANumber _ _ _

theorem abs_ne_notANumber {u : UnpackedFloat} (hu : u ≠ .notANumber) : u.abs ≠ .notANumber := by
  cases u with
  | notANumber => exact absurd rfl hu
  | infinity s => exact UnpackedFloat.noConfusion
  | zero s => exact UnpackedFloat.noConfusion
  | finite s m e hm => exact UnpackedFloat.noConfusion

theorem unpack_add_ne_notANumber {x y : Float} (hx : x.toModel.unpack ≠ .notANumber)
    (hy : y.isFinite = true) : (x + y).toModel.unpack ≠ .notANumber := by
  rw [unpack_add]
  exact packed_ne_notANumber (add_ne_notANumber hx hy)

theorem unpack_ne_notANumber_of_isFinite {x : Float} (hx : x.isFinite = true) :
    x.toModel.unpack ≠ .notANumber := by
  intro hnan
  change x.toModel.unpack.isFinite = true at hx
  rw [hnan] at hx
  cases hx

end Double

end TripQuery
