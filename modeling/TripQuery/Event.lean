import TripQuery.Calendar.Text
import TripQuery.Criterion
import TripQuery.Mode
import TripQuery.Recorded
import TripQuery.Text.Quoted
import TripQuery.Wire.Status

namespace TripQuery

/-!
# Events

What the service writes to its journal: a level, a fixed message, and the values that belong to
it, each under its name.
-/

inductive Level
  | debug
  | info
  | warn
  deriving DecidableEq, Repr

def Level.name : Level → String
  | .debug => "DEBUG"
  | .info => "INFO"
  | .warn => "WARN"

inductive EventValue
  | text (s : String)
  | number (n : Nat)
  deriving DecidableEq, Repr

inductive Event
  | ignoredParameter (name : String)
  | readingTimestamp (time : String)
  | resolvedSearch (index : Nat) (criterion : Criterion) (modes : ModeSet) (instant : Instant)
  | resolvedSet (count : Nat)
  | rejected (status : Status) (kind message : String)

namespace Event

def level : Event → Level
  | ignoredParameter _ | readingTimestamp _ | resolvedSearch .. => .debug
  | resolvedSet _ => .info
  | rejected .. => .warn

def message : Event → String
  | ignoredParameter _ => "ignoring unrecognized query parameter"
  | readingTimestamp _ => "trying time as ISO timestamp"
  | resolvedSearch .. => "resolved search request"
  | resolvedSet _ => "resolved plan set"
  | rejected .. => "rejected plan request"

def values : Event → List (String × EventValue)
  | ignoredParameter name => [("parameter", .text name)]
  | readingTimestamp time => [("time", .text time)]
  | resolvedSearch index criterion modes instant =>
      [("index", .number index), ("optimize", .text criterion.name), ("modes", .text modes.text),
        ("date_time", .text instant.spaced)]
  | resolvedSet count => [("count", .number count)]
  | rejected status kind message =>
      [("status", .text status.text), ("kind", .text kind), ("message", .text message)]

/-- The fields of the event: its message first, then its values. -/
def fields (e : Event) : List (String × EventValue) :=
  ("message", .text e.message) :: e.values

/-- The event on one line: its level and message, and each value behind its name. -/
def line (e : Event) : String :=
  let value : String × EventValue → String
    | (name, .text s) => " " ++ name ++ "=" ++ quoted s
    | (name, .number n) => " " ++ name ++ "=" ++ toString n
  e.level.name ++ " " ++ e.message ++ String.join (e.values.map value)

end Event

/-- A computation that keeps the service's journal. -/
abbrev Logged := Recorded Event

end TripQuery
