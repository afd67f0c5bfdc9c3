import Mathlib.Tactic.IntervalCases
import TripQuery.Calendar.Date

namespace TripQuery

/-!
# Neighbouring days

The day after and the day before are inverse to each other, and every day but the first and the last
of the calendar has both.
-/

theorem monthLength_ge {y : Int} {m : Nat} (h1 : 1 ≤ m) (h12 : m ≤ 12) :
    28 ≤ monthLength y m := by
  interval_cases m <;> simp only [monthLength] <;> (try split) <;> omega

namespace Date

variable {x y : Date}

theorem one_le_month (x : Date) : 1 ≤ x.month ∧ x.month ≤ 12 := by
  obtain ⟨-, -, hd, hlen⟩ := x.isDate
  exact le_twelve_of_monthLength_pos (Nat.lt_of_lt_of_le hd hlen)

theorem day_le (x : Date) : 1 ≤ x.day ∧ x.day ≤ monthLength x.year x.month :=
  ⟨x.isDate.2.2.1, x.isDate.2.2.2⟩

/-- The three ways to the next day: within the month, to the next month, to the next year. -/
theorem next?_cases (h : x.next? = some y) :
    (x.day < monthLength x.year x.month ∧
      y.year = x.year ∧ y.month = x.month ∧ y.day = x.day + 1) ∨
    (x.day = monthLength x.year x.month ∧ x.month < 12 ∧
      y.year = x.year ∧ y.month = x.month + 1 ∧ y.day = 1) ∨
    (x.month = 12 ∧ x.day = 31 ∧ y.year = x.year + 1 ∧ y.month = 1 ∧ y.day = 1) := by
  obtain ⟨hm1, hm12⟩ := x.one_le_month
  obtain ⟨hd1, hdle⟩ := x.day_le
  unfold next? at h
  by_cases hday : x.day < monthLength x.year x.month
  · rw [if_pos hday] at h
    exact Or.inl ⟨hday, ofYmd?_eq_some_iff.mp h⟩
  · rw [if_neg hday] at h
    by_cases hmonth : x.month < 12
    · rw [if_pos hmonth] at h
      exact Or.inr (Or.inl ⟨by omega, hmonth, ofYmd?_eq_some_iff.mp h⟩)
    · rw [if_neg hmonth] at h
      have hm : x.month = 12 := by omega
      have hlen : monthLength x.year x.month = 31 := by rw [hm]; rfl
      exact Or.inr (Or.inr ⟨hm, by omega, ofYmd?_eq_some_iff.mp h⟩)

theorem previous?_cases (h : y.previous? = some x) :
    (1 < y.day ∧ x.year = y.year ∧ x.month = y.month ∧ x.day = y.day - 1) ∨
    (y.day = 1 ∧ 1 < y.month ∧ x.year = y.year ∧ x.month = y.month - 1 ∧
      x.day = monthLength y.year (y.month - 1)) ∨
    (y.day = 1 ∧ y.month = 1 ∧ x.year = y.year - 1 ∧ x.month = 12 ∧ x.day = 31) := by
  obtain ⟨hm1, hm12⟩ := y.one_le_month
  obtain ⟨hd1, hdle⟩ := y.day_le
  unfold previous? at h
  by_cases hday : 1 < y.day
  · rw [if_pos hday] at h
    exact Or.inl ⟨hday, ofYmd?_eq_some_iff.mp h⟩
  · rw [if_neg hday] at h
    by_cases hmonth : 1 < y.month
    · rw [if_pos hmonth] at h
      exact Or.inr (Or.inl ⟨by omega, hmonth, ofYmd?_eq_some_iff.mp h⟩)
    · rw [if_neg hmonth] at h
      exact Or.inr (Or.inr ⟨by omega, by omega, ofYmd?_eq_some_iff.mp h⟩)

theorem previous?_of_next? (h : x.next? = some y) : y.previous? = some x := by
  obtain ⟨hm1, hm12⟩ := x.one_le_month
  obtain ⟨hd1, -⟩ := x.day_le
  rcases next?_cases h with
    ⟨-, hy, hm, hd⟩ | ⟨hlast, hmonth, hy, hm, hd⟩ | ⟨hmonth, hlast, hy, hm, hd⟩
  · rw [previous?, if_pos (by omega), ofYmd?_eq_some_iff]
    exact ⟨hy.symm, hm.symm, by omega⟩
  · have hback : y.month - 1 = x.month := by omega
    rw [previous?, if_neg (by omega), if_pos (by omega), hback, hy, ofYmd?_eq_some_iff]
    exact ⟨rfl, rfl, hlast⟩
  · rw [previous?, if_neg (by omega), if_neg (by omega), ofYmd?_eq_some_iff]
    exact ⟨by omega, hmonth, hlast⟩

theorem next?_of_previous? (h : y.previous? = some x) : x.next? = some y := by
  obtain ⟨hm1, hm12⟩ := y.one_le_month
  obtain ⟨hd1, hdle⟩ := y.day_le
  rcases previous?_cases h with
    ⟨hday, hy, hm, hd⟩ | ⟨hday, hmonth, hy, hm, hd⟩ | ⟨hday, hmonth, hy, hm, hd⟩
  · have hlt : x.day < monthLength x.year x.month := by
      rw [hy, hm]
      omega
    rw [next?, if_pos hlt, ofYmd?_eq_some_iff]
    exact ⟨hy.symm, hm.symm, by omega⟩
  · have hlast : ¬ x.day < monthLength x.year x.month := by
      rw [hy, hm, hd]
      exact Nat.lt_irrefl _
    rw [next?, if_neg hlast, if_pos (by omega), ofYmd?_eq_some_iff]
    exact ⟨hy.symm, by omega, hday⟩
  · have hlast : ¬ x.day < monthLength x.year x.month := by
      have hlen := monthLength_le x.year x.month
      omega
    rw [next?, if_neg hlast, if_neg (by omega), ofYmd?_eq_some_iff]
    exact ⟨by omega, hmonth, hday⟩

theorem ofYmd?_isSome {year : Int} {month day : Nat} (h : IsDate year month day) :
    (ofYmd? year month day).isSome = true := by
  rw [ofYmd?, dif_pos h]
  rfl

/-- Only the last day of the last year has no day after it. -/
theorem isSome_next? (h : x.year < lastYear ∨ x.month < 12 ∨ x.day < 31) :
    x.next?.isSome = true := by
  obtain ⟨hfirst, hlast, hd1, hdle⟩ := x.isDate
  obtain ⟨hm1, hm12⟩ := x.one_le_month
  rw [next?]
  by_cases hday : x.day < monthLength x.year x.month
  · rw [if_pos hday]
    exact ofYmd?_isSome ⟨hfirst, hlast, by omega, hday⟩
  · rw [if_neg hday]
    by_cases hmonth : x.month < 12
    · have hlen := monthLength_ge (y := x.year) (m := x.month + 1) (by omega) (by omega)
      rw [if_pos hmonth]
      exact ofYmd?_isSome ⟨hfirst, hlast, by omega, by omega⟩
    · have hlen := monthLength_ge (y := x.year + 1) (m := 1) (by omega) (by omega)
      have hm : x.month = 12 := by omega
      have hdecember : monthLength x.year x.month = 31 := by rw [hm]; rfl
      rw [if_neg hmonth]
      exact ofYmd?_isSome ⟨by omega, by omega, by omega, by omega⟩

/-- Only the first day of the first year has no day before it. -/
theorem isSome_previous? (h : firstYear < x.year ∨ 1 < x.month ∨ 1 < x.day) :
    x.previous?.isSome = true := by
  obtain ⟨hfirst, hlast, hd1, hdle⟩ := x.isDate
  obtain ⟨hm1, hm12⟩ := x.one_le_month
  rw [previous?]
  by_cases hday : 1 < x.day
  · rw [if_pos hday]
    exact ofYmd?_isSome ⟨hfirst, hlast, by omega, by omega⟩
  · rw [if_neg hday]
    by_cases hmonth : 1 < x.month
    · have hlen := monthLength_ge (y := x.year) (m := x.month - 1) (by omega) (by omega)
      rw [if_pos hmonth]
      exact ofYmd?_isSome ⟨hfirst, hlast, by omega, Nat.le_refl _⟩
    · have hlen : monthLength (x.year - 1) 12 = 31 := rfl
      rw [if_neg hmonth]
      exact ofYmd?_isSome ⟨by omega, by omega, by omega, by omega⟩

end Date

end TripQuery
