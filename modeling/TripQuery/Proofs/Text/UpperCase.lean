import Mathlib
import TripQuery.Proofs.Text.Trimming

namespace TripQuery

/-!
# Texts in upper case

Upper case turns letters into letters and leaves every other character alone. So it neither makes
blanks and marks nor takes them away, and a text can be trimmed and split before or after it.
-/

theorem isBlank_eq_false_of_isAlpha {c : Char} (h : c.isAlpha = true) : isBlank c = false := by
  simp only [Char.isAlpha, Char.isUpper, Char.isLower, Bool.or_eq_true, Bool.and_eq_true,
    decide_eq_true_eq] at h
  have hcode : 65 ≤ c.toNat ∧ c.toNat ≤ 90 ∨ 97 ≤ c.toNat ∧ c.toNat ≤ 122 := h
  simp only [isBlank, Bool.or_eq_false_iff, Bool.and_eq_false_iff, decide_eq_false_iff_not,
    beq_eq_false_iff_ne]
  omega

/-- Upper case only turns letters into letters. -/
theorem apply_toUpper {p : Char → Bool} (hp : ∀ c, c.isAlpha = true → p c = false) (c : Char) :
    p c.toUpper = p c := by
  by_cases hc : c.isAlpha = true
  · rw [hp c hc, hp c.toUpper (by rw [Char.isAlpha_toUpper_eq_isAlpha, hc])]
  · rw [Char.isAlpha, Bool.or_eq_true, not_or] at hc
    rw [Char.toUpper_eq_of_not_isLower hc.2]

theorem isBlank_toUpper (c : Char) : isBlank c.toUpper = isBlank c :=
  apply_toUpper (fun _ => isBlank_eq_false_of_isAlpha) c

theorem splitOnP_map {p : Char → Bool} {f : Char → Char} (hf : ∀ c, p (f c) = p c)
    (cs : List Char) : (cs.map f).splitOnP p = (cs.splitOnP p).map (List.map f) := by
  induction cs with
  | nil => rfl
  | cons c cs ih =>
      rw [List.map_cons, List.splitOnP_cons_eq_if_modifyHead,
        List.splitOnP_cons_eq_if_modifyHead, hf, ih]
      split
      · rfl
      · obtain ⟨first, rest, hsplit⟩ := List.exists_cons_of_ne_nil (List.splitOnP_ne_nil p cs)
        rw [hsplit]
        rfl

theorem trimStart_map_toUpper (cs : List Char) :
    trimStart (cs.map Char.toUpper) = (trimStart cs).map Char.toUpper := by
  have hcomp : isBlank ∘ Char.toUpper = isBlank := funext isBlank_toUpper
  rw [trimStart, List.dropWhile_map, hcomp, trimStart]

theorem trim_map_toUpper (cs : List Char) :
    trim (cs.map Char.toUpper) = (trim cs).map Char.toUpper := by
  rw [trim, trimStart_map_toUpper, trimEnd_eq_reverse, ← List.map_reverse, trimStart_map_toUpper,
    ← List.map_reverse, trim, trimEnd_eq_reverse]

end TripQuery
