import TripQuery.Calendar.Instant
import TripQuery.Text.Blank

namespace TripQuery

/-!
# Patterns of dates and times

A pattern is a list of items, each of which reads a number, a word, blanks or one fixed character
off the front of a text. Blanks may stand in front of every number. A text fits a pattern when
the items read all of it.
-/

inductive Item
  | year
  | month
  | day
  | hour
  /-- An hour of a half day, from 1 to 12. -/
  | halfDayHour
  | minute
  | second
  /-- A point and a fraction of a second, or nothing. -/
  | fraction
  | meridiem
  | space
  | literal (c : Char)
  deriving DecidableEq

abbrev Pattern := List Item

/-- The numbers read so far. -/
structure Fields where
  year : Int := 0
  month : Nat := 0
  day : Nat := 0
  hour : Nat := 0
  minute : Nat := 0
  second : Nat := 0
  nanos : Nat := 0
  deriving DecidableEq

namespace Fields

def date? (f : Fields) : Option Date := Date.ofYmd? f.year f.month f.day

def time? (f : Fields) : Option TimeOfDay :=
  TimeOfDay.ofClock? f.hour f.minute f.second f.nanos

def dateTime? (f : Fields) : Option DateTime :=
  match f.date?, f.time? with
  | some d, some t => some ⟨d, t⟩
  | _, _ => none

end Fields

/-- Reads a number of one to `most` digits, as many as there are. -/
def number? (most : Nat) (cs : List Char) : Option (Nat × List Char) :=
  let ds := (cs.take most).takeWhile Char.isDigit
  if ds = [] then none else some (Nat.ofDigitChars 10 ds 0, cs.drop ds.length)

/-- Reads a number of one or two digits, after blanks. -/
def shortNumber? (cs : List Char) : Option (Nat × List Char) := number? 2 (trimStart cs)

/-- Reads a year: after a sign it may have any number of digits, else it has at most four. -/
def year? (cs : List Char) : Option (Int × List Char) :=
  match trimStart cs with
  | '-' :: rest => (number? rest.length rest).map fun (n, rest) => (-(n : Int), rest)
  | '+' :: rest => (number? rest.length rest).map fun (n, rest) => ((n : Int), rest)
  | rest => (number? 4 rest).map fun (n, rest) => ((n : Int), rest)

/-- Reads the digits behind a point as nanoseconds; those past the ninth are dropped. -/
def nanos? (cs : List Char) : Option (Nat × List Char) :=
  (number? 9 cs).map fun (n, rest) =>
    (n * Nat.pow 10 (9 - (cs.length - rest.length)), rest.dropWhile Char.isDigit)

def fraction? : List Char → Option (Nat × List Char)
  | '.' :: cs => nanos? cs
  | cs => some (0, cs)

/-- Reads `am` or `pm` in any case; the number is that of the hours before that half of the day. -/
def meridiem? : List Char → Option (Nat × List Char)
  | a :: m :: cs =>
      if m.toLower = 'm' then
        if a.toLower = 'a' then some (0, cs)
        else if a.toLower = 'p' then some (12, cs)
        else none
      else none
  | _ => none

/-- Reads the hour of a half day; twelve comes before one. -/
def halfDayHour? (cs : List Char) : Option (Nat × List Char) :=
  (shortNumber? cs).bind fun (n, rest) =>
    if 1 ≤ n ∧ n ≤ 12 then some (n % 12, rest) else none

def Item.read (f : Fields) (cs : List Char) : Item → Option (Fields × List Char)
  | .year => (year? cs).map fun (y, rest) => ({ f with year := y }, rest)
  | .month => (shortNumber? cs).map fun (n, rest) => ({ f with month := n }, rest)
  | .day => (shortNumber? cs).map fun (n, rest) => ({ f with day := n }, rest)
  | .hour => (shortNumber? cs).map fun (n, rest) => ({ f with hour := n }, rest)
  | .halfDayHour => (halfDayHour? cs).map fun (n, rest) => ({ f with hour := n }, rest)
  | .minute => (shortNumber? cs).map fun (n, rest) => ({ f with minute := n }, rest)
  | .second => (shortNumber? cs).map fun (n, rest) => ({ f with second := n }, rest)
  | .fraction => (fraction? cs).map fun (n, rest) => ({ f with nanos := n }, rest)
  | .meridiem => (meridiem? cs).map fun (n, rest) => ({ f with hour := f.hour + n }, rest)
  | .space => some (f, trimStart cs)
  | .literal c =>
      match cs with
      | d :: rest => if c = d then some (f, rest) else none
      | [] => none

namespace Pattern

/-- Reads the items in turn; nothing may be left. -/
def readFrom (f : Fields) (cs : List Char) : Pattern → Option Fields
  | [] => if cs = [] then some f else none
  | i :: is => (i.read f cs).bind fun (f, rest) => readFrom f rest is

def read (p : Pattern) (cs : List Char) : Option Fields := readFrom {} cs p

@[simp] theorem readFrom_nil (f : Fields) (cs : List Char) :
    readFrom f cs [] = if cs = [] then some f else none := rfl

theorem readFrom_cons (f : Fields) (cs : List Char) (i : Item) (is : Pattern) :
    readFrom f cs (i :: is) = (i.read f cs).bind fun (f, rest) => readFrom f rest is := rfl

end Pattern

end TripQuery
