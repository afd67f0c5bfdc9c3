namespace TripQuery

/-!
# Times of day

A time of day is a second of the day and a fraction of it in nanoseconds. A fraction of a whole
second or more stands for a leap second: the second that follows the one written.
-/

def secondsPerDay : Nat := 86400

def nanosPerSecond : Nat := 1000000000

structure TimeOfDay where
  /-- Seconds since midnight. -/
  second : Nat
  nanos : Nat
  second_lt : second < secondsPerDay
  nanos_lt : nanos < 2 * nanosPerSecond
  deriving DecidableEq

namespace TimeOfDay

@[ext] theorem ext {a b : TimeOfDay} (hs : a.second = b.second) (hn : a.nanos = b.nanos) :
    a = b := by
  cases a
  cases b
  simp_all

def ofSeconds? (s nanos : Nat) : Option TimeOfDay :=
  if h : s < secondsPerDay ∧ nanos < 2 * nanosPerSecond then some ⟨s, nanos, h.1, h.2⟩ else none

@[simp] theorem ofSeconds?_fields (t : TimeOfDay) : ofSeconds? t.second t.nanos = some t := by
  simp [ofSeconds?, t.second_lt, t.nanos_lt]

/-- The time on a clock's face. The sixtieth second is the leap second of the one before it. -/
def ofClock? (h m s nanos : Nat) : Option TimeOfDay :=
  if h < 24 ∧ m < 60 ∧ nanos < nanosPerSecond then
    if s < 60 then ofSeconds? (3600 * h + 60 * m + s) nanos
    else if s = 60 then ofSeconds? (3600 * h + 60 * m + 59) (nanosPerSecond + nanos)
    else none
  else none

def isLeap (t : TimeOfDay) : Bool := decide (nanosPerSecond ≤ t.nanos)

def hour (t : TimeOfDay) : Nat := t.second / 3600

def minute (t : TimeOfDay) : Nat := t.second / 60 % 60

/-- The second that a clock shows, one more in a leap second. -/
def shownSecond (t : TimeOfDay) : Nat := t.second % 60 + if t.isLeap then 1 else 0

def shownNanos (t : TimeOfDay) : Nat := if t.isLeap then t.nanos - nanosPerSecond else t.nanos

theorem hour_lt (t : TimeOfDay) : t.hour < 24 := by
  have := t.second_lt
  simp only [hour, secondsPerDay] at *
  omega

theorem minute_lt (t : TimeOfDay) : t.minute < 60 := by
  unfold minute
  omega

theorem shownNanos_lt (t : TimeOfDay) : t.shownNanos < nanosPerSecond := by
  have := t.nanos_lt
  simp only [shownNanos, isLeap, decide_eq_true_eq]
  split <;> omega

end TimeOfDay

end TripQuery
