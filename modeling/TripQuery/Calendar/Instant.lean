import TripQuery.Calendar.Date
import TripQuery.Calendar.TimeOfDay

namespace TripQuery

/-!
# Instants

A date and a time of day become an instant by the offset that the place keeps from universal
time. The instant exists when its date-time in universal time is representable.
-/

/-- A date and a time of day, as read off a wall. -/
structure DateTime where
  date : Date
  time : TimeOfDay
  deriving DecidableEq

/-- The day that holds the second `total`, counted from the start of `d` and less than a day
before or after it. -/
def Date.carry? (d : Date) (total : Int) : Option Date :=
  if total < 0 then d.previous? else if total < secondsPerDay then some d else d.next?

namespace DateTime

/-- Moves by less than a day. The fraction stays, and with it a leap second. -/
def shift? (t : DateTime) (seconds : Int) : Option DateTime :=
  let total := t.time.second + seconds
  (t.date.carry? total).bind fun date =>
    (TimeOfDay.ofSeconds? (total % secondsPerDay).toNat t.time.nanos).map fun time =>
      ⟨date, time⟩

end DateTime

/-- Seconds by which the wall clock is ahead of universal time: less than a day either way. -/
structure Offset where
  seconds : Int
  isBounded : -86400 < seconds ∧ seconds < 86400
  deriving DecidableEq

namespace Offset

def ofSeconds? (s : Int) : Option Offset :=
  if h : -86400 < s ∧ s < 86400 then some ⟨s, h⟩ else none

def utc : Offset := ⟨0, by decide⟩

end Offset

/-- A point in time, with the offset in which it is shown. -/
structure Instant where
  wall : DateTime
  offset : Offset
  inRange : (wall.shift? (-offset.seconds)).isSome
  deriving DecidableEq

namespace Instant

@[ext] theorem ext {a b : Instant} (hw : a.wall = b.wall) (ho : a.offset = b.offset) : a = b := by
  cases a
  cases b
  simp_all

/-- The instant at which a wall clock with that offset shows that date-time. -/
def ofWall? (wall : DateTime) (offset : Offset) : Option Instant :=
  if h : (wall.shift? (-offset.seconds)).isSome then some ⟨wall, offset, h⟩ else none

@[simp] theorem ofWall?_fields (i : Instant) : ofWall? i.wall i.offset = some i := by
  simp [ofWall?, i.inRange]

/-- The instant at the second `second` of a day, in an offset given by its seconds. -/
def ofNumbers? (year : Int) (month day second nanos : Nat) (offset : Int) : Option Instant := do
  let date ← Date.ofYmd? year month day
  let time ← TimeOfDay.ofSeconds? second nanos
  ofWall? ⟨date, time⟩ (← Offset.ofSeconds? offset)

def utc (i : Instant) : DateTime := (i.wall.shift? (-i.offset.seconds)).get i.inRange

/-- The same point in time, shown in another offset. -/
def withOffset? (i : Instant) (offset : Offset) : Option Instant :=
  (i.utc.shift? offset.seconds).bind fun wall => ofWall? wall offset

end Instant

end TripQuery
