namespace TripQuery

/-!
# Reading real numbers

A real number is an optional sign, digits with an optional point among or around them, and an
optional exponent; the words `inf`, `infinity` and `nan` are read in any case. The value is the
double nearest to the number written.
-/

namespace RealNumeral

inductive Fault
  | empty
  | malformed
  deriving DecidableEq, Repr

def Fault.message : Fault → String
  | .empty => "cannot parse float from empty string"
  | .malformed => "invalid float literal"

/-- Splits off a sign; the flag tells a minus. -/
def takeSign : List Char → Bool × List Char
  | '-' :: cs => (true, cs)
  | '+' :: cs => (false, cs)
  | cs => (false, cs)

def takeDigits (cs : List Char) : List Char × List Char :=
  (cs.takeWhile Char.isDigit, cs.dropWhile Char.isDigit)

def takeFraction : List Char → List Char × List Char
  | '.' :: cs => takeDigits cs
  | cs => ([], cs)

/-- Exponents grow no further once they have reached this bound; by then the value is zero or
infinite. -/
def exponentBound : Nat := 65536

def exponentValue (ds : List Char) : Nat :=
  ds.foldl (fun n c => if n < exponentBound then 10 * n + (c.toNat - '0'.toNat) else n) 0

/-- Reads what follows the mantissa: nothing, or an exponent with at least one digit. -/
def exponent? : List Char → Option Int
  | [] => some 0
  | c :: cs =>
      if c = 'e' ∨ c = 'E' then
        let (minus, body) := takeSign cs
        let (ds, rest) := takeDigits body
        if ds = [] ∨ rest ≠ [] then none
        else some (if minus then -(exponentValue ds : Int) else exponentValue ds)
      else none

/-- The double nearest to `m * 10 ^ e`. -/
def scaled (m : Nat) (e : Int) : Float := Float.ofScientific m (decide (e < 0)) e.natAbs

def decimal? (cs : List Char) : Option Float :=
  let (whole, behind) := takeDigits cs
  let (fraction, rest) := takeFraction behind
  if whole ++ fraction = [] then none
  else
    (exponent? rest).map fun e =>
      scaled (Nat.ofDigitChars 10 (whole ++ fraction) 0) (e - fraction.length)

/-- Reads a word for a value that is no finite number. -/
def word? (cs : List Char) : Option Float :=
  let word := cs.map Char.toLower
  if word = "inf".toList ∨ word = "infinity".toList then some (1.0 / 0.0)
  else if word = "nan".toList then some (0.0 / 0.0)
  else none

def read : List Char → Except Fault Float
  | [] => .error .empty
  | cs =>
      let (minus, body) := takeSign cs
      match decimal? body <|> word? body with
      | some x => .ok (if minus then -x else x)
      | none => .error .malformed

end RealNumeral

end TripQuery
