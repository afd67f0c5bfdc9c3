import TripQuery.Calendar.Reading
import TripQuery.Proofs.Calendar.Shift

namespace TripQuery

/-!
# Counting days and seconds

The days are counted from the first day of the year one, and the seconds from its midnight. A shift
adds to the count of seconds, and it fails exactly when the sum belongs to no year of the calendar.
-/

/-- The days from the start of the year one to the start of the year. -/
def daysBeforeYear (y : Int) : Int :=
  365 * (y - 1) + (y - 1) / 4 - (y - 1) / 100 + (y - 1) / 400

/-- The days of a year in front of a month. -/
def daysBeforeMonth (y : Int) (m : Nat) : Nat := ((List.range m).map (monthLength y)).sum

/-- The second, in the count, belongs to a year of the calendar. -/
def IsInCalendar (second : Int) : Prop :=
  86400 * daysBeforeYear firstYear ≤ second ∧ second < 86400 * daysBeforeYear (lastYear + 1)

instance (second : Int) : Decidable (IsInCalendar second) := by
  unfold IsInCalendar
  infer_instance

theorem daysBeforeYear_le {y z : Int} (h : y ≤ z) : daysBeforeYear y ≤ daysBeforeYear z := by
  unfold daysBeforeYear
  omega

theorem daysBeforeMonth_succ (y : Int) (m : Nat) :
    daysBeforeMonth y (m + 1) = daysBeforeMonth y m + monthLength y m := by
  simp [daysBeforeMonth, List.range_succ]

theorem daysBeforeMonth_le (y : Int) {m k : Nat} (h : m ≤ k) :
    daysBeforeMonth y m ≤ daysBeforeMonth y k := by
  induction h with
  | refl => exact Nat.le_refl _
  | step _ ih =>
      rw [daysBeforeMonth_succ]
      omega

/-- The months make up the year. -/
theorem daysBeforeYear_succ (y : Int) :
    daysBeforeYear (y + 1) = daysBeforeYear y + daysBeforeMonth y 13 := by
  have hmonths : daysBeforeMonth y 13 = if isLeapYear y then 366 else 365 := by
    cases hleap : isLeapYear y <;> simp [daysBeforeMonth, List.range_succ, monthLength, hleap]
  have hleap : isLeapYear y = true ↔ y % 4 = 0 ∧ (y % 100 ≠ 0 ∨ y % 400 = 0) :=
    decide_eq_true_iff
  rw [hmonths]
  unfold daysBeforeYear
  split
  · next h =>
      have := hleap.mp h
      omega
  · next h =>
      have := mt hleap.mpr h
      omega

namespace Date

variable {x y : Date}

/-- The days in front of the date, from the start of the year one. -/
def dayCount (x : Date) : Int :=
  daysBeforeYear x.year + daysBeforeMonth x.year x.month + x.day - 1

theorem dayCount_next? (h : x.next? = some y) : y.dayCount = x.dayCount + 1 := by
  have hlast := daysBeforeMonth_succ x.year x.month
  rcases next?_cases h with
    ⟨-, hy, hm, hd⟩ | ⟨hday, -, hy, hm, hd⟩ | ⟨hmonth, hday, hy, hm, hd⟩
  · simp only [dayCount, hy, hm, hd]
    omega
  · simp only [dayCount, hy, hm, hd, hlast]
    omega
  · have hyear := daysBeforeYear_succ x.year
    have hstart : daysBeforeMonth (x.year + 1) 1 = 0 := rfl
    have hlength : monthLength x.year 12 = 31 := rfl
    rw [hmonth, hlength] at hlast
    simp only [dayCount, hy, hm, hd, hday, hmonth, hyear, hstart, hlast]
    omega

theorem dayCount_previous? (h : x.previous? = some y) : y.dayCount = x.dayCount - 1 := by
  have hnext := dayCount_next? (next?_of_previous? h)
  omega

/-- The count of a date lies within that of its year. -/
theorem dayCount_of_year (x : Date) :
    daysBeforeYear x.year ≤ x.dayCount ∧ x.dayCount < daysBeforeYear (x.year + 1) := by
  obtain ⟨-, -, hd1, hdle⟩ := x.isDate
  have hyear := daysBeforeYear_succ x.year
  have hmonth := daysBeforeMonth_succ x.year x.month
  have hmonths : daysBeforeMonth x.year (x.month + 1) ≤ daysBeforeMonth x.year 13 := by
    apply daysBeforeMonth_le
    have := x.one_le_month.2
    omega
  unfold dayCount
  omega

/-- The years do not overlap in the count. -/
theorem year_le_of_dayCount_le (h : x.dayCount ≤ y.dayCount) : x.year ≤ y.year := by
  by_contra hlt
  have hstart : daysBeforeYear (y.year + 1) ≤ daysBeforeYear x.year := daysBeforeYear_le (by omega)
  have hx := x.dayCount_of_year
  have hy := y.dayCount_of_year
  omega

/-- The months of a year do not overlap in the count. -/
theorem month_le_of_dayCount_le (hyear : x.year = y.year) (h : x.dayCount ≤ y.dayCount) :
    x.month ≤ y.month := by
  by_contra hlt
  have hstart : daysBeforeMonth y.year (y.month + 1) ≤ daysBeforeMonth y.year x.month :=
    daysBeforeMonth_le _ (by omega)
  have hlast := daysBeforeMonth_succ y.year y.month
  obtain ⟨-, -, hx, -⟩ := x.isDate
  obtain ⟨-, -, -, hy⟩ := y.isDate
  unfold dayCount at h
  rw [hyear] at h
  omega

/-- The count tells dates apart. -/
theorem eq_of_dayCount_eq (h : x.dayCount = y.dayCount) : x = y := by
  have hyear : x.year = y.year :=
    Int.le_antisymm (year_le_of_dayCount_le h.le) (year_le_of_dayCount_le h.ge)
  have hmonth : x.month = y.month := Nat.le_antisymm (month_le_of_dayCount_le hyear h.le)
    (month_le_of_dayCount_le hyear.symm h.ge)
  refine Date.ext hyear hmonth ?_
  unfold dayCount at h
  rw [hyear, hmonth] at h
  omega

theorem dayCount_bounds (x : Date) :
    daysBeforeYear firstYear ≤ x.dayCount ∧ x.dayCount < daysBeforeYear (lastYear + 1) := by
  obtain ⟨hfirst, hlast, -⟩ := x.isDate
  have hstart := daysBeforeYear_le hfirst
  have hstop : daysBeforeYear (x.year + 1) ≤ daysBeforeYear (lastYear + 1) :=
    daysBeforeYear_le (by omega)
  have hcount := x.dayCount_of_year
  omega

theorem dayCount_of_next?_eq_none (h : x.next? = none) :
    x.dayCount + 1 = daysBeforeYear (lastYear + 1) := by
  obtain ⟨-, hlast, hd1, hdle⟩ := x.isDate
  have hmonth := x.one_le_month
  have hlength := monthLength_le x.year x.month
  have hnot : ¬ (x.year < lastYear ∨ x.month < 12 ∨ x.day < 31) := by
    intro hearly
    have hsome := isSome_next? hearly
    rw [h] at hsome
    cases hsome
  have hy : x.year = lastYear := by omega
  have hm : x.month = 12 := by omega
  have hd : x.day = 31 := by omega
  simp only [dayCount, hy, hm, hd]
  decide

theorem dayCount_of_previous?_eq_none (h : x.previous? = none) :
    x.dayCount = daysBeforeYear firstYear := by
  obtain ⟨hfirst, -, hd1, -⟩ := x.isDate
  have hmonth := x.one_le_month
  have hnot : ¬ (firstYear < x.year ∨ 1 < x.month ∨ 1 < x.day) := by
    intro hlate
    have hsome := isSome_previous? hlate
    rw [h] at hsome
    cases hsome
  have hy : x.year = firstYear := by omega
  have hm : x.month = 1 := by omega
  have hd : x.day = 1 := by omega
  simp only [dayCount, hy, hm, hd]
  decide

end Date

namespace DateTime

variable {t u : DateTime} {a : Int}

/-- The seconds from the start of the year one, without leap seconds. -/
def seconds (t : DateTime) : Int := 86400 * t.date.dayCount + t.time.second

/-- The count and the nanoseconds tell date-times apart. -/
theorem eq_of_seconds_eq (h : t.seconds = u.seconds) (hnanos : t.time.nanos = u.time.nanos) :
    t = u := by
  have ht := t.second_lt
  have hu := u.second_lt
  unfold seconds at h
  have hday : t.date.dayCount = u.date.dayCount := by omega
  have hdate : t.date = u.date := Date.eq_of_dayCount_eq hday
  have htime : t.time = u.time := TimeOfDay.ext (by omega) hnanos
  cases t
  cases u
  simp_all

theorem seconds_of_shift? (h : t.shift? a = some u) (hlow : -86400 < a) (hhigh : a < 86400) :
    u.seconds = t.seconds + a := by
  obtain ⟨hdate, hs, -⟩ := shift?_eq_some_iff.mp h
  have hlt := t.second_lt
  have hday : ((secondsPerDay : Nat) : Int) = 86400 := rfl
  rw [Date.carry?, hday] at hdate
  unfold seconds
  split at hdate
  · have := Date.dayCount_previous? hdate
    omega
  · split at hdate
    · have hsame : t.date = u.date := Option.some.inj hdate
      rw [hsame]
      omega
    · have := Date.dayCount_next? hdate
      omega

/-- A shift of less than a day succeeds exactly within the calendar. -/
theorem exists_shift?_iff (hlow : -86400 < a) (hhigh : a < 86400) :
    (∃ u, t.shift? a = some u) ↔ IsInCalendar (t.seconds + a) := by
  constructor
  · rintro ⟨u, hu⟩
    have hbounds := u.date.dayCount_bounds
    have hlt := u.second_lt
    have hseconds := seconds_of_shift? hu hlow hhigh
    unfold seconds at hseconds
    unfold IsInCalendar seconds
    omega
  · intro hrange
    have hlt := t.second_lt
    have hday : ((secondsPerDay : Nat) : Int) = 86400 := rfl
    unfold IsInCalendar seconds at hrange
    rw [← Option.isSome_iff_exists, isSome_shift?_eq, Date.carry?, hday]
    split
    · by_contra hnone
      have := Date.dayCount_of_previous?_eq_none (Option.not_isSome_iff_eq_none.mp hnone)
      omega
    · split
      · rfl
      · by_contra hnone
        have := Date.dayCount_of_next?_eq_none (Option.not_isSome_iff_eq_none.mp hnone)
        omega

end DateTime

namespace Instant

theorem seconds_utc (i : Instant) : i.utc.seconds = i.wall.seconds - i.offset.seconds := by
  have hbound := i.offset.isBounded
  have h := DateTime.seconds_of_shift? i.shift?_wall (by omega) (by omega)
  omega

theorem nanos_utc (i : Instant) : i.utc.time.nanos = i.wall.time.nanos :=
  (DateTime.shift?_eq_some_iff.mp i.shift?_wall).2.2

/-- In one offset, instants of the same universal time are the same. -/
theorem eq_of_utc {i j : Instant} (hoffset : i.offset = j.offset)
    (hseconds : i.utc.seconds = j.utc.seconds) (hnanos : i.utc.time.nanos = j.utc.time.nanos) :
    i = j := by
  rw [seconds_utc, seconds_utc, hoffset] at hseconds
  rw [nanos_utc, nanos_utc] at hnanos
  exact Instant.ext (DateTime.eq_of_seconds_eq (by omega) hnanos) hoffset

/-- A wall clock shows an instant when universal time is within the calendar. -/
theorem exists_ofWall?_iff {wall : DateTime} {offset : Offset} :
    (∃ i, ofWall? wall offset = some i) ↔ IsInCalendar (wall.seconds - offset.seconds) := by
  have hbound := offset.isBounded
  have hshift := DateTime.exists_shift?_iff (t := wall) (a := -offset.seconds) (by omega) (by omega)
  rw [Int.sub_eq_add_neg, ← hshift, ← Option.isSome_iff_exists, ← Option.isSome_iff_exists,
    ofWall?]
  split
  · next h => simp [h]
  · next h => simp [h]

theorem utc_of_withOffset? {i j : Instant} {offset : Offset}
    (h : i.withOffset? offset = some j) : j.utc = i.utc := by
  obtain ⟨wall, hwall, hj⟩ := Option.bind_eq_some_iff.mp h
  obtain ⟨hw, ho⟩ := ofWall?_eq_some_iff.mp hj
  have hbound := offset.isBounded
  have hback := DateTime.shift?_neg hwall (by omega) (by omega)
  have hutc := j.shift?_wall
  rw [hw, ho, hback] at hutc
  exact (Option.some.inj hutc).symm

/-- An instant shows in every offset in which its wall clock stays within the calendar. -/
theorem exists_withOffset? {i : Instant} {offset : Offset}
    (h : IsInCalendar (i.utc.seconds + offset.seconds)) : ∃ j, i.withOffset? offset = some j := by
  have hbound := offset.isBounded
  obtain ⟨wall, hwall⟩ := (DateTime.exists_shift?_iff (by omega) (by omega)).mpr h
  have hback := DateTime.shift?_neg hwall (by omega) (by omega)
  have hrange : (wall.shift? (-offset.seconds)).isSome = true := by rw [hback]; rfl
  refine ⟨⟨wall, offset, hrange⟩, ?_⟩
  rw [withOffset?, hwall, Option.bind_some, ofWall?, dif_pos hrange]

/-- A date-time is placed unless universal time would leave the calendar. -/
theorem place_eq_error_iff {wall : DateTime} {offset : Offset} {text : String} {e : TemporalFault} :
    place wall offset text = .error e ↔
      e = ⟨.outOfRange, text⟩ ∧ ¬ IsInCalendar (wall.seconds - offset.seconds) := by
  rw [place, ← exists_ofWall?_iff]
  cases ofWall? wall offset with
  | none => simp [eq_comm]
  | some i => simp

theorem place_eq_ok_iff {wall : DateTime} {offset : Offset} {text : String} {i : Instant} :
    place wall offset text = .ok i ↔ i.wall = wall ∧ i.offset = offset := by
  rw [place, found_eq_ok_iff, ofWall?_eq_some_iff]

end Instant

end TripQuery
