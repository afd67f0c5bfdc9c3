import TripQuery.Criterion
import TripQuery.Decimal.Reading
import TripQuery.Mode
import TripQuery.Numeral

namespace TripQuery

/-!
# Kinds of parameter values

Every parameter of a query has a kind, which says what its values are and how they are read from
their text.
-/

inductive Kind
  | text
  | flag
  | real
  | count
  | criterion
  | modes
  deriving DecidableEq, Repr

@[reducible] def Kind.Value : Kind → Type
  | .text => String
  | .flag => Bool
  | .real => Float
  | .count => UInt32
  | .criterion => Criterion
  | .modes => ModeSet

inductive ValueCause
  | notFlag
  | notFinite
  | real (fault : RealNumeral.Fault)
  | count (fault : Numeral.Fault)
  | criterion (fault : Criterion.Unknown)
  | modes (fault : ModeFault)
  deriving DecidableEq, Repr

def ValueCause.message : ValueCause → String
  | .notFlag => "expected true or false"
  | .notFinite => "must be finite"
  | .real fault => fault.message
  | .count fault => fault.message
  | .criterion fault => fault.message
  | .modes fault => fault.message

namespace Kind

def readFlag (s : String) : Except ValueCause Bool :=
  let word := (trim s.toList).map Char.toLower
  if word = "true".toList then .ok true
  else if word = "false".toList then .ok false
  else .error .notFlag

def readReal (s : String) : Except ValueCause Float :=
  match RealNumeral.read (trim s.toList) with
  | .ok x => if x.isFinite then .ok x else .error .notFinite
  | .error fault => .error (.real fault)

def readCount (s : String) : Except ValueCause UInt32 :=
  match Numeral.read Numeral.countLimit (trim s.toList) with
  | .ok n => .ok (UInt32.ofNat n)
  | .error fault => .error (.count fault)

/-- Reads a value. A text is taken as it is; of every other value, the blanks around it are
dropped. -/
def read : (k : Kind) → String → Except ValueCause k.Value
  | .text, s => .ok s
  | .flag, s => readFlag s
  | .real, s => readReal s
  | .count, s => readCount s
  | .criterion, s => (Criterion.read (trimmed s)).mapError .criterion
  | .modes, s => (ModeSet.read (trimmed s)).mapError .modes

end Kind

end TripQuery
