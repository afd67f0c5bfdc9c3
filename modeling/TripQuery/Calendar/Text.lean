import TripQuery.Calendar.Instant

namespace TripQuery

/-!
# Written dates, times and instants

A date is written `YYYY-MM-DD`, a year outside 0 to 9999 with its sign. A time of day is written
`HH:MM:SS` and the shortest of no, three, six and nine digits that hold its fraction exactly; a
leap second shows the second 60.
-/

/-- The decimal digits of a number, with zeros in front up to the width. -/
def padded (width n : Nat) : List Char := (Nat.toDigits 10 n).leftpad width '0'

namespace Date

def yearText (y : Int) : List Char :=
  if 0 ≤ y ∧ y ≤ 9999 then padded 4 y.natAbs
  else (if y < 0 then '-' else '+') :: padded 4 y.natAbs

def chars (d : Date) : List Char :=
  yearText d.year ++ '-' :: padded 2 d.month ++ '-' :: padded 2 d.day

def text (d : Date) : String := String.ofList d.chars

end Date

namespace TimeOfDay

def fractionText (nanos : Nat) : List Char :=
  if nanos = 0 then []
  else if nanos % 1000000 = 0 then '.' :: padded 3 (nanos / 1000000)
  else if nanos % 1000 = 0 then '.' :: padded 6 (nanos / 1000)
  else '.' :: padded 9 nanos

def chars (t : TimeOfDay) : List Char :=
  padded 2 t.hour ++ ':' :: padded 2 t.minute ++ ':' :: padded 2 t.shownSecond ++
    fractionText t.shownNanos

def text (t : TimeOfDay) : String := String.ofList t.chars

end TimeOfDay

namespace Offset

def sign (o : Offset) : Char := if o.seconds < 0 then '-' else '+'

/-- Hours and minutes, rounded to the nearest minute; half a minute counts as a whole one. -/
def minuteChars (o : Offset) : List Char :=
  let minutes := (o.seconds.natAbs + 30) / 60
  o.sign :: padded 2 (minutes / 60) ++ ':' :: padded 2 (minutes % 60)

def chars (o : Offset) : List Char :=
  let s := o.seconds.natAbs
  o.sign :: padded 2 (s / 3600) ++ ':' :: padded 2 (s / 60 % 60) ++
    (if s % 60 = 0 then [] else ':' :: padded 2 (s % 60))

end Offset

namespace Instant

/-- The timestamp form: date, `T`, time of day and the offset to the minute. -/
def timestampChars (i : Instant) : List Char :=
  i.wall.date.chars ++ 'T' :: i.wall.time.chars ++ i.offset.minuteChars

def timestamp (i : Instant) : String := String.ofList i.timestampChars

/-- The spaced form: date, time of day and the whole offset. -/
def spaced (i : Instant) : String :=
  String.ofList (i.wall.date.chars ++ ' ' :: i.wall.time.chars ++ ' ' :: i.offset.chars)

end Instant

end TripQuery
