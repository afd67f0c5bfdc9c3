namespace TripQuery

/-!
# Calendar dates

Dates of the Gregorian calendar, carried on before its introduction and before the year one. The
years run from `firstYear` to `lastYear`.
-/

def isLeapYear (y : Int) : Bool := decide (y % 4 = 0 ∧ (y % 100 ≠ 0 ∨ y % 400 = 0))

/-- The number of days of a month; a number that names no month has none. -/
def monthLength (y : Int) : Nat → Nat
  | 1 | 3 | 5 | 7 | 8 | 10 | 12 => 31
  | 4 | 6 | 9 | 11 => 30
  | 2 => if isLeapYear y then 29 else 28
  | _ => 0

theorem monthLength_le (y : Int) (m : Nat) : monthLength y m ≤ 31 := by
  unfold monthLength
  split <;> (try split) <;> omega

theorem le_twelve_of_monthLength_pos {y : Int} {m : Nat} (h : 0 < monthLength y m) :
    1 ≤ m ∧ m ≤ 12 := by
  unfold monthLength at h
  split at h <;> omega

def firstYear : Int := -262143

def lastYear : Int := 262142

/-- The year is representable, and it has that day. -/
def IsDate (y : Int) (m d : Nat) : Prop :=
  firstYear ≤ y ∧ y ≤ lastYear ∧ 1 ≤ d ∧ d ≤ monthLength y m

instance (y : Int) (m d : Nat) : Decidable (IsDate y m d) := by
  unfold IsDate
  infer_instance

structure Date where
  year : Int
  month : Nat
  day : Nat
  isDate : IsDate year month day
  deriving DecidableEq

namespace Date

@[ext] theorem ext {a b : Date} (hy : a.year = b.year) (hm : a.month = b.month)
    (hd : a.day = b.day) : a = b := by
  cases a
  cases b
  simp_all

def ofYmd? (y : Int) (m d : Nat) : Option Date :=
  if h : IsDate y m d then some ⟨y, m, d, h⟩ else none

@[simp] theorem ofYmd?_fields (d : Date) : ofYmd? d.year d.month d.day = some d := by
  simp [ofYmd?, d.isDate]

theorem ofYmd?_eq_some_iff {y : Int} {m d : Nat} {x : Date} :
    ofYmd? y m d = some x ↔ x.year = y ∧ x.month = m ∧ x.day = d := by
  constructor
  · intro h
    unfold ofYmd? at h
    split at h
    · cases h
      simp
    · cases h
  · rintro ⟨rfl, rfl, rfl⟩
    exact ofYmd?_fields x

/-- The day after; the last representable day has none. -/
def next? (x : Date) : Option Date :=
  if x.day < monthLength x.year x.month then ofYmd? x.year x.month (x.day + 1)
  else if x.month < 12 then ofYmd? x.year (x.month + 1) 1
  else ofYmd? (x.year + 1) 1 1

/-- The day before; the first representable day has none. -/
def previous? (x : Date) : Option Date :=
  if 1 < x.day then ofYmd? x.year x.month (x.day - 1)
  else if 1 < x.month then ofYmd? x.year (x.month - 1) (monthLength x.year (x.month - 1))
  else ofYmd? (x.year - 1) 12 31

end Date

end TripQuery
