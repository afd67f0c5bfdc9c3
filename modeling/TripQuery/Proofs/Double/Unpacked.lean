import Mathlib

namespace TripQuery

/-!
# Doubles, unpacked

A finite double is a signed significand times a power of two. Sums and differences are computed on
the unpacked form, and the result is packed again. Packing may overflow, but what has a value, or
is infinite, does not lose it.
-/

namespace Double

open Float.Model (Format UnpackedFloat)
open Float.Model.UnpackedFloat

/-- What is left of a result once it is packed. -/
def packed (u : UnpackedFloat) : UnpackedFloat :=
  unpack Format.binary64 (pack Format.binary64 u)

/-- A significand with all its bits, as of every double but the smallest. -/
def IsFull (m : Nat) : Prop := 2 ^ 52 ≤ m ∧ m < 2 ^ 53

variable {x y : Float} {u v : UnpackedFloat} {s : Sign} {m : Nat} {e : Int}

/-- The number that a finite double stands for, and zero for any other. -/
def exactValue (x : Float) : ℚ :=
  match x.toModel.unpack with
  | .finite s m e _ => s.apply m * 2 ^ e
  | _ => 0

theorem exactValue_of_finite {hm : 0 < m} (h : x.toModel.unpack = .finite s m e hm) :
    exactValue x = s.apply m * 2 ^ e := by
  rw [exactValue, h]

theorem apply_shiftLeft_mul (s : Sign) (m : Nat) {d e : Int} (h : d ≤ e) :
    (s.apply (m <<< (e - d).toNat : Nat) : ℚ) * 2 ^ d = s.apply m * 2 ^ e := by
  have hpow : ((2 : ℚ) ^ (e - d).toNat) * 2 ^ d = 2 ^ e := by
    rw [← zpow_natCast, ← zpow_add₀ two_ne_zero, Int.toNat_of_nonneg (by omega), Int.sub_add_cancel]
  rw [Nat.shiftLeft_eq, ← hpow, ← mul_assoc]
  cases s <;> simp [Sign.apply]

theorem unpack_add (x y : Float) :
    (x + y).toModel.unpack = packed (add Format.binary64 x.toModel.unpack y.toModel.unpack) :=
  rfl

theorem unpack_sub (x y : Float) :
    (x - y).toModel.unpack = packed (sub Format.binary64 x.toModel.unpack y.toModel.unpack) :=
  rfl

theorem unpack_abs (x : Float) : x.abs.toModel.unpack = packed x.toModel.unpack.abs := rfl

theorem lt_iff : x < y ↔ x.toModel.unpack.compare y.toModel.unpack = some .lt := by
  have hmodel : x < y ↔ x.toModel < y.toModel := decide_eq_true_iff
  exact hmodel.trans beq_iff_eq

theorem le_iff : x ≤ y ↔ (x.toModel.unpack.compare y.toModel.unpack).any (·.isLE) = true := by
  have hmodel : x ≤ y ↔ x.toModel ≤ y.toModel := decide_eq_true_iff
  exact hmodel

theorem swap_compare_sign (s t : Sign) : (compare s t).swap = compare t s := by
  cases s <;> cases t <;> rfl

theorem compare_swap (u v : UnpackedFloat) : u.compare v = (v.compare u).map Ordering.swap := by
  fun_cases UnpackedFloat.compare u v with
  | case1 => cases v <;> simp [UnpackedFloat.compare]
  | _ => simp_all [UnpackedFloat.compare, swap_compare_sign, Ordering.swap_then,
      Int.compare_swap, Nat.compare_swap]

theorem compare_ne_none (hu : u ≠ .notANumber) (hv : v ≠ .notANumber) : u.compare v ≠ none := by
  fun_cases UnpackedFloat.compare u v with
  | case1 => exact absurd rfl hu
  | case2 => exact absurd rfl hv
  | _ => simp

theorem le_of_not_lt (hx : x.toModel.unpack ≠ .notANumber) (hy : y.toModel.unpack ≠ .notANumber)
    (h : ¬ x < y) : y ≤ x := by
  rw [lt_iff] at h
  rw [le_iff, compare_swap]
  cases hc : x.toModel.unpack.compare y.toModel.unpack with
  | none => exact absurd hc (compare_ne_none hx hy)
  | some order =>
      cases order with
      | lt => exact absurd hc h
      | eq => rfl
      | gt => rfl

theorem not_lt_of_le (h : y ≤ x) : ¬ x < y := by
  rw [le_iff, compare_swap] at h
  rw [lt_iff]
  intro hlt
  rw [hlt] at h
  cases h

theorem isNaN_iff : x.isNaN = true ↔ x.toModel.unpack = .notANumber := by
  change x.toModel.unpack.isNaN = true ↔ _
  cases x.toModel.unpack <;> simp [UnpackedFloat.isNaN]

theorem isNaN_eq_false_iff : x.isNaN = false ↔ x.toModel.unpack ≠ .notANumber := by
  rw [← Bool.not_eq_true, isNaN_iff]

/-- What is no number is not larger than anything. -/
theorem not_lt_of_isNaN (h : y.isNaN = true) : ¬ x < y := by
  rw [lt_iff, isNaN_iff.mp h, compare_swap, UnpackedFloat.compare]
  simp

@[simp] theorem packed_infinity (s : Sign) : packed (.infinity s) = .infinity s := by
  cases s <;> rfl

@[simp] theorem packed_zero (s : Sign) : packed (.zero s) = .zero s := by
  cases s <;> rfl

@[simp] theorem packed_notANumber : packed .notANumber = .notANumber := rfl

theorem isNaN_sub (h : x.isNaN = true) (y : Float) : (x - y).isNaN = true := by
  rw [isNaN_iff, unpack_sub, isNaN_iff.mp h, UnpackedFloat.sub, packed_notANumber]

theorem isNaN_abs (h : x.isNaN = true) : x.abs.isNaN = true := by
  rw [isNaN_iff, unpack_abs, isNaN_iff.mp h, UnpackedFloat.abs, packed_notANumber]

theorem unpack_packComponents_ne_notANumber (s : Sign) {exponent : BitVec 11}
    (h : exponent ≠ -1#11) (mantissa : BitVec 52) :
    unpack Format.binary64 (packComponents Format.binary64 s exponent mantissa) ≠ .notANumber := by
  intro hnan
  unfold unpack at hnan
  rw [unpackExponent_packComponents, if_neg h] at hnan
  split at hnan
  · split at hnan <;> cases hnan
  · cases hnan

theorem ofNat_ne_neg_one {n : Nat} (h : n + 1 < 2 ^ 11) : BitVec.ofNat 11 n ≠ -1#11 := by
  intro hn
  have htoNat := congrArg BitVec.toNat hn
  rw [BitVec.toNat_ofNat, Nat.mod_eq_of_lt (Nat.lt_of_succ_lt h)] at htoNat
  have hones : (-1#11).toNat = 2047 := rfl
  omega

theorem packed_ne_notANumber (h : u ≠ .notANumber) : packed u ≠ .notANumber := by
  cases u with
  | notANumber => exact absurd rfl h
  | infinity s => simp
  | zero s => simp
  | finite s m e hm =>
      unfold packed pack
      dsimp only
      split
      · change packed (.infinity s) ≠ .notANumber
        simp
      · next hfits =>
          split
          · exact unpack_packComponents_ne_notANumber s (ofNat_ne_neg_one (by omega)) _
          · exact unpack_packComponents_ne_notANumber s (by decide) _

theorem IsFull.pos (h : IsFull m) : 0 < m := (Nat.two_pow_pos 52).trans_le h.1

theorem toNat_implicit_append (h : IsFull m) : (1#1 ++ BitVec.ofNat 52 m).toNat = m := by
  obtain ⟨hlow, hhigh⟩ := h
  rw [BitVec.toNat_append, BitVec.toNat_ofNat, ← Nat.shiftLeft_add_eq_or_of_lt]
  · simp only [BitVec.toNat_ofNat, Nat.shiftLeft_eq]
    omega
  · exact Nat.mod_lt _ (Nat.two_pow_pos 52)

theorem unpack_packComponents_of_normal {field : Nat} (s : Sign) (hpos : 0 < field)
    (hlt : field + 1 < 2 ^ 11) (hm : 0 < m) (hfull : IsFull m) :
    unpack Format.binary64
        (packComponents Format.binary64 s (BitVec.ofNat 11 field) (BitVec.ofNat 52 m)) =
      .finite s m (field - 1075) hm := by
  have hfield : (BitVec.ofNat 11 field).toNat = field := by
    rw [BitVec.toNat_ofNat, Nat.mod_eq_of_lt (Nat.lt_of_succ_lt hlt)]
  have hzero : BitVec.ofNat 11 field ≠ 0#11 := by
    intro hn
    rw [hn] at hfield
    exact hpos.ne hfield
  unfold unpack
  simp only [unpackExponent_packComponents, unpackMantissa_packComponents,
    unpackSign_packComponents, Sign.ofBitVec_toBitVec]
  rw [if_neg (ofNat_ne_neg_one hlt), if_neg hzero, finite.injEq]
  refine ⟨rfl, toNat_implicit_append hfull, ?_⟩
  rw [hfield]
  rfl

theorem lt_of_unpack_eq_finite {b : BitVec Format.binary64.numBits} {hm : 0 < m}
    (h : unpack Format.binary64 b = .finite s m e hm) : m < 2 ^ 53 := by
  unfold unpack at h
  dsimp only at h
  split at h
  · split at h <;> cases h
  · split at h
    · split at h
      · cases h
      · cases h
        exact Nat.lt_trans (BitVec.isLt _) (by decide)
    · cases h
      exact BitVec.isLt _

/-- A significand of full length is kept as it is, unless the exponent is too large. -/
theorem packed_of_normal (s : Sign) (hm : 0 < m) (hfull : IsFull m) (he : -1074 ≤ e) :
    packed (.finite s m e hm) = .finite s m e hm ∨ packed (.finite s m e hm) = .infinity s := by
  have hlog : m.log2 = 52 := (Nat.log2_eq_iff hm.ne').mpr hfull
  have hbias : e + Format.binary64.exponentBias + Format.binary64.mantissaBitsWithoutImplicit =
      e + 1075 := by
    change e + 1023 + 52 = e + 1075
    omega
  unfold packed pack
  simp only [hbias]
  split
  · exact Or.inr (packed_infinity s)
  · next hfits =>
      rw [if_pos (by rw [hlog]; rfl),
        unpack_packComponents_of_normal s (by omega) (by omega) hm hfull, finite.injEq]
      exact Or.inl ⟨rfl, rfl, by omega⟩

end Double

end TripQuery
