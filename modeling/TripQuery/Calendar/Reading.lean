import TripQuery.Calendar.Timestamp
import TripQuery.Text.Quoted

namespace TripQuery

/-!
# Reading dates, times and instants

A date, a time of day and a timestamp may each be written in several ways, with blanks around
them. The ways are tried in order, and the first that fits the text decides. A date and a time
given apart are combined, and the present instant stands in for a part that is missing.
-/

inductive TemporalCause
  | noSuchDate
  | unrecognizedDate
  | unrecognizedTime
  | notTimestamp
  | outOfRange
  deriving DecidableEq, Repr

def TemporalCause.message : TemporalCause → String
  | .noSuchDate => "no such date"
  | .unrecognizedDate => "unrecognized date format"
  | .unrecognizedTime => "unrecognized time format"
  | .notTimestamp => "not an ISO 8601 timestamp"
  | .outOfRange => "instant out of range"

structure TemporalFault where
  cause : TemporalCause
  text : String
  deriving DecidableEq

def TemporalFault.message (f : TemporalFault) : String :=
  "invalid date/time " ++ quoted f.text ++ ": " ++ f.cause.message

/-- What was found in a text, or why nothing was. -/
def found {α : Type} (cause : TemporalCause) (text : String) : Option α → Except TemporalFault α
  | some a => .ok a
  | none => .error ⟨cause, text⟩

@[simp] theorem found_some {α : Type} (cause : TemporalCause) (text : String) (a : α) :
    found cause text (some a) = .ok a := rfl

@[simp] theorem found_none {α : Type} (cause : TemporalCause) (text : String) :
    found cause text (none : Option α) = .error ⟨cause, text⟩ := rfl

theorem found_eq_ok_iff {α : Type} {cause : TemporalCause} {text : String} {x : Option α} {a : α} :
    found cause text x = .ok a ↔ x = some a := by
  cases x <;> simp

namespace Date

/-- As in `2024-03-15`. -/
def yearFirst : Pattern := [.year, .literal '-', .month, .literal '-', .day]

/-- As in `03/15/2024`. -/
def slashed : Pattern := [.month, .literal '/', .day, .literal '/', .year]

/-- As in `03-15-2024`. -/
def monthFirst : Pattern := [.month, .literal '-', .day, .literal '-', .year]

def patterns : List Pattern := [yearFirst, slashed, monthFirst]

def fit? (cs : List Char) (p : Pattern) : Option Date := (p.read cs).bind Fields.date?

/-- Whether the text is a date in eight digits: year, month and day without marks between. -/
def isCompact (cs : List Char) : Bool := cs.length == 8 && cs.all Char.isDigit

def ofCompact? (cs : List Char) : Option Date :=
  let n := Nat.ofDigitChars 10 cs 0
  ofYmd? (n / 10000 : Nat) (n / 100 % 100) (n % 100)

def read (s : String) : Except TemporalFault Date :=
  let cs := trim s.toList
  if isCompact cs then found .noSuchDate (trimmed s) (ofCompact? cs)
  else found .unrecognizedDate (trimmed s) (patterns.findSome? (fit? cs))

end Date

namespace TimeOfDay

/-- As in `14:30:15`. -/
def toTheSecond : Pattern := [.hour, .literal ':', .minute, .literal ':', .second]

/-- As in `14:30`. -/
def toTheMinute : Pattern := [.hour, .literal ':', .minute]

/-- As in `2:30pm`. -/
def halfDay : Pattern := [.halfDayHour, .literal ':', .minute, .meridiem]

/-- As in `2:30 pm`. -/
def halfDaySpaced : Pattern := [.halfDayHour, .literal ':', .minute, .space, .meridiem]

def patterns : List Pattern := [toTheSecond, toTheMinute, halfDay, halfDaySpaced]

def fit? (cs : List Char) (p : Pattern) : Option TimeOfDay := (p.read cs).bind Fields.time?

def read (s : String) : Except TemporalFault TimeOfDay :=
  found .unrecognizedTime (trimmed s) (patterns.findSome? (fit? (trim s.toList)))

end TimeOfDay

namespace DateTime

/-- As in `2024-03-15T10:30:00.5`. -/
def toTheFraction : Pattern :=
  Date.yearFirst ++ .literal 'T' :: TimeOfDay.toTheSecond ++ [.fraction]

/-- As in `2024-03-15T10:30`. -/
def toTheMinute : Pattern := Date.yearFirst ++ .literal 'T' :: TimeOfDay.toTheMinute

def patterns : List Pattern := [toTheFraction, toTheMinute]

def fit? (cs : List Char) (p : Pattern) : Option DateTime := (p.read cs).bind Fields.dateTime?

end DateTime

namespace Instant

/-- Places a date-time in an offset; the text is the one to complain about. -/
def place (wall : DateTime) (offset : Offset) (text : String) : Except TemporalFault Instant :=
  found .outOfRange text (ofWall? wall offset)

/-- Reads a timestamp with an offset of its own and shows it in another one. -/
def ofTimestamp? (offset : Offset) (cs : List Char) : Option Instant :=
  (Timestamp.read? cs).bind (·.withOffset? offset)

/-- Reads a timestamp. One with an offset of its own is shown in the given offset; one without is
taken to be in it. -/
def read (offset : Offset) (s : String) : Except TemporalFault Instant :=
  let cs := trim s.toList
  match ofTimestamp? offset cs with
  | some i => .ok i
  | none => do
      let wall ← found .notTimestamp (trimmed s) (DateTime.patterns.findSome? (DateTime.fit? cs))
      place wall offset (trimmed s)

def readPart {α : Type} (read : String → Except TemporalFault α) :
    Option String → Except TemporalFault (Option α)
  | none => .ok none
  | some s => (read s).map some

/-- Combines a date and a time. The present date or time of day stands in for the one missing, and
the present instant for both. -/
def combine (date time : Option String) (now : Instant) : Except TemporalFault Instant := do
  let day ← readPart Date.read date
  let clock ← readPart TimeOfDay.read time
  match day, clock with
  | none, none => return now
  | _, _ =>
      place ⟨day.getD now.wall.date, clock.getD now.wall.time⟩ now.offset
        (trimmed (date.getD "" ++ " " ++ time.getD ""))

end Instant

end TripQuery
