namespace TripQuery

/-!
# Numerals

A numeral is an optional plus sign and one or more decimal digits. It is read from the left, and
the first trouble met is the one reported: a character that is no digit, or a value that has
grown past the limit.
-/

namespace Numeral

inductive Fault
  | empty
  | invalidDigit
  | tooLarge
  deriving DecidableEq, Repr

def Fault.message : Fault → String
  | .empty => "cannot parse integer from empty string"
  | .invalidDigit => "invalid digit found in string"
  | .tooLarge => "number too large to fit in target type"

def digit? (c : Char) : Option Nat :=
  if c.isDigit then some (c.toNat - '0'.toNat) else none

/-- Continues a number by the digits that follow it. -/
def extend (limit : Nat) : Nat → List Char → Except Fault Nat
  | n, [] => .ok n
  | n, c :: cs =>
      match digit? c with
      | none => .error .invalidDigit
      | some d => if 10 * n + d ≤ limit then extend limit (10 * n + d) cs else .error .tooLarge

/-- Reads the digits of a numeral; there is at least one. -/
def readDigits (limit : Nat) : List Char → Except Fault Nat
  | [] => .error .invalidDigit
  | cs => extend limit 0 cs

def read (limit : Nat) : List Char → Except Fault Nat
  | [] => .error .empty
  | '+' :: cs => readDigits limit cs
  | cs => readDigits limit cs

@[simp] theorem extend_nil (limit n : Nat) : extend limit n [] = .ok n := rfl

def countLimit : Nat := 4294967295

def sizeLimit : Nat := 18446744073709551615

end Numeral

end TripQuery
