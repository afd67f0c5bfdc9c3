import TripQuery.Calendar.Pattern
import TripQuery.Text.Front

namespace TripQuery

/-!
# Timestamps with an offset

The form of RFC 3339: a date and a time of day in digits of fixed width, an optional fraction of
a second and an offset. The offset is `Z`, or a sign and hours and minutes; the sign may be the
minus of mathematics.
-/

namespace Timestamp

/-- Reads a number of exactly `width` digits. -/
def fixed? (width : Nat) (cs : List Char) : Option (Nat × List Char) :=
  let ds := cs.take width
  if ds.length = width ∧ ds.all Char.isDigit then
    some (Nat.ofDigitChars 10 ds 0, cs.drop width)
  else none

def date? (cs : List Char) : Option (Date × List Char) := do
  let (y, cs) ← fixed? 4 cs
  let cs ← expect? '-' cs
  let (m, cs) ← fixed? 2 cs
  let cs ← expect? '-' cs
  let (d, cs) ← fixed? 2 cs
  let date ← Date.ofYmd? y m d
  return (date, cs)

def time? (cs : List Char) : Option (TimeOfDay × List Char) := do
  let (h, cs) ← fixed? 2 cs
  let cs ← expect? ':' cs
  let (m, cs) ← fixed? 2 cs
  let cs ← expect? ':' cs
  let (s, cs) ← fixed? 2 cs
  let (nanos, cs) ← fraction? cs
  let time ← TimeOfDay.ofClock? h m s nanos
  return (time, cs)

/-- The signs of an offset; U+2212 is the minus of mathematics. -/
def signs : List Char := ['+', '-', '\u2212']

/-- Reads the offset, which ends the text. -/
def offset? (cs : List Char) : Option Offset :=
  if cs = ['Z'] ∨ cs = ['z'] then some .utc
  else do
    let (sign, cs) ← oneOf? signs cs
    let (h, cs) ← fixed? 2 cs
    let cs ← expect? ':' cs
    let (m, cs) ← fixed? 2 cs
    if cs = [] ∧ h < 24 ∧ m < 60 then
      let seconds : Int := 3600 * h + 60 * m
      Offset.ofSeconds? (if sign = '+' then seconds else -seconds)
    else none

def read? (cs : List Char) : Option Instant := do
  let (date, cs) ← date? cs
  let (_, cs) ← oneOf? ['T', 't', ' '] cs
  let (time, cs) ← time? cs
  let offset ← offset? cs
  Instant.ofWall? ⟨date, time⟩ offset

end Timestamp

end TripQuery
