import Mathlib.Algebra.Group.Nat.Defs
import Mathlib.Data.List.TakeWhile
import TripQuery.Numeral

namespace TripQuery

/-!
# Numerals and the numbers they write

A numeral is a run of digits, and writes a number. Counts are read from exactly the numerals up to
their limit, with or without a plus sign.
-/

/-- A run of digits and the number it writes. -/
structure IsNumeral (ds : List Char) (n : Nat) : Prop where
  ne_nil : ds ≠ []
  isDigit : ∀ c ∈ ds, c.isDigit = true
  value : Nat.ofDigitChars 10 ds 0 = n

theorem IsNumeral.head {ds : List Char} {n : Nat} (h : IsNumeral ds n) (rest : List Char) :
    ∃ c cs, ds ++ rest = c :: cs ∧ c.isDigit = true := by
  obtain ⟨c, cs, rfl⟩ := List.exists_cons_of_ne_nil h.ne_nil
  exact ⟨c, cs ++ rest, rfl, h.isDigit c List.mem_cons_self⟩

theorem digit_le {c : Char} (h : c.isDigit = true) : c.toNat - '0'.toNat ≤ 9 := by
  have hhigh : c.toNat ≤ 57 := (Char.isDigit_iff_toNat.mp h).2
  have hzero : '0'.toNat = 48 := rfl
  omega

theorem ofDigitChars_lt {ds : List Char} (h : ∀ c ∈ ds, c.isDigit = true) (init : Nat) :
    Nat.ofDigitChars 10 ds init < (init + 1) * 10 ^ ds.length := by
  induction ds generalizing init with
  | nil => simp
  | cons c ds ih =>
      have hrest := ih (fun d hd => h d (List.mem_cons_of_mem c hd))
        (10 * init + (c.toNat - '0'.toNat))
      have hdigit := digit_le (h c List.mem_cons_self)
      rw [Nat.ofDigitChars_cons]
      calc
        _ < (10 * init + (c.toNat - '0'.toNat) + 1) * 10 ^ ds.length := hrest
        _ ≤ ((init + 1) * 10) * 10 ^ ds.length := Nat.mul_le_mul_right _ (by omega)
        _ = (init + 1) * 10 ^ (c :: ds).length := by
          rw [List.length_cons, Nat.pow_succ, Nat.mul_assoc, Nat.mul_comm 10]

theorem IsNumeral.lt {ds : List Char} {n : Nat} (h : IsNumeral ds n) : n < 10 ^ ds.length := by
  have hlt := ofDigitChars_lt h.isDigit 0
  rwa [h.value, Nat.zero_add, Nat.one_mul] at hlt

theorem le_ofDigitChars (init : Nat) (cs : List Char) : init ≤ Nat.ofDigitChars 10 cs init := by
  rw [Nat.ofDigitChars_eq_ofDigitChars_zero]
  have hpos : 0 < 10 ^ cs.length := Nat.pow_pos (by decide)
  exact Nat.le_trans (Nat.le_mul_of_pos_left init hpos) (Nat.le_add_right _ _)

namespace Numeral

/-- The text of a count. A plus sign may stand in front of the numeral. -/
def IsText (cs : List Char) (n : Nat) : Prop :=
  ∃ ds, (cs = ds ∨ cs = '+' :: ds) ∧ IsNumeral ds n

variable {limit n m : Nat} {cs : List Char}

/-- Digits continue a number unless they go past the limit. It is enough to look at the end, for
the number only grows. -/
theorem extend_eq_ok_iff (hn : n ≤ limit) :
    extend limit n cs = .ok m ↔
      (∀ c ∈ cs, c.isDigit = true) ∧ Nat.ofDigitChars 10 cs n = m ∧ m ≤ limit := by
  induction cs generalizing n with
  | nil =>
      rw [extend_nil, Nat.ofDigitChars_nil]
      constructor
      · rintro ⟨⟩
        exact ⟨by simp, rfl, hn⟩
      · rintro ⟨-, rfl, -⟩
        rfl
  | cons c cs ih =>
      rw [extend, List.forall_mem_cons, Nat.ofDigitChars_cons]
      by_cases hc : c.isDigit = true
      · have hdigit : digit? c = some (c.toNat - '0'.toNat) := if_pos hc
        simp only [hdigit]
        split
        · next hle => rw [ih hle, and_iff_right hc]
        · next hlt =>
            constructor
            · rintro ⟨⟩
            · rintro ⟨-, rfl, hle⟩
              exact absurd (Nat.le_trans (le_ofDigitChars _ cs) hle) hlt
      · have hdigit : digit? c = none := if_neg hc
        simp only [hdigit]
        constructor
        · rintro ⟨⟩
        · rintro ⟨⟨hc', -⟩, -⟩
          exact absurd hc' hc

theorem readDigits_eq_ok_iff : readDigits limit cs = .ok n ↔ IsNumeral cs n ∧ n ≤ limit := by
  cases cs with
  | nil =>
      constructor
      · rintro ⟨⟩
      · rintro ⟨h, -⟩
        exact absurd rfl h.ne_nil
  | cons c cs =>
      rw [readDigits, extend_eq_ok_iff (Nat.zero_le limit)]
      · constructor
        · rintro ⟨hdigits, hvalue, hle⟩
          exact ⟨⟨List.cons_ne_nil c cs, hdigits, hvalue⟩, hle⟩
        · rintro ⟨h, hle⟩
          exact ⟨h.isDigit, h.value, hle⟩
      · rintro ⟨⟩

theorem read_eq_ok_iff : read limit cs = .ok n ↔ IsText cs n ∧ n ≤ limit := by
  unfold read
  split
  · constructor
    · rintro ⟨⟩
    · rintro ⟨⟨ds, rfl | h, hds⟩, -⟩
      · exact absurd rfl hds.ne_nil
      · cases h
  · next cs =>
      rw [readDigits_eq_ok_iff]
      constructor
      · rintro ⟨h, hle⟩
        exact ⟨⟨cs, Or.inr rfl, h⟩, hle⟩
      · rintro ⟨⟨ds, rfl | h, hds⟩, hle⟩
        · exact absurd (hds.isDigit '+' List.mem_cons_self) (by decide)
        · cases h
          exact ⟨hds, hle⟩
  · next hplus =>
      rw [readDigits_eq_ok_iff]
      constructor
      · rintro ⟨h, hle⟩
        exact ⟨⟨cs, Or.inl rfl, h⟩, hle⟩
      · rintro ⟨⟨ds, rfl | h, hds⟩, hle⟩
        · exact ⟨hds, hle⟩
        · exact absurd h (hplus ds)

end Numeral

end TripQuery
