import TripQuery.Decimal.Shortest

namespace TripQuery

/-!
# Written decimals

A decimal is written positionally or with an exponent. A layout says which of the two is used,
by the number of digits in front of the point, and whether a whole number shows its point.
-/

structure Layout where
  /-- Whether a number with so many digits in front of its point is written positionally. -/
  positional : Int → Bool
  /-- Whether a whole number ends in a point and a zero. -/
  showsPoint : Bool

/-- The layout of messages: every number is positional, and whole numbers have no point. -/
def Layout.message : Layout := ⟨fun _ => true, false⟩

/-- The layout of documents: positional down to five places behind the point and up to sixteen in
front of it, and whole numbers keep their point. -/
def Layout.document : Layout := ⟨fun k => decide (-5 < k ∧ k ≤ 16), true⟩

namespace Decimal

def digitChars (d : Decimal) : List Char := Nat.toDigits 10 d.digits

/-- The number of digits in front of the point; zeros behind it count negatively. -/
def pointPosition (d : Decimal) : Int := d.digitChars.length + d.exponent

def positional (showsPoint : Bool) (d : Decimal) : List Char :=
  let ds := d.digitChars
  let k := d.pointPosition
  if 0 ≤ d.exponent then
    ds ++ List.replicate d.exponent.toNat '0' ++ (if showsPoint then ['.', '0'] else [])
  else if 0 < k then ds.take k.toNat ++ '.' :: ds.drop k.toNat
  else '0' :: '.' :: List.replicate (-k).toNat '0' ++ ds

/-- The form with one digit in front of the point and an exponent. -/
def scientific (d : Decimal) : List Char :=
  let mantissa :=
    match d.digitChars with
    | [] => []
    | [c] => [c]
    | c :: cs => c :: '.' :: cs
  mantissa ++ 'e' :: (toString (d.pointPosition - 1)).toList

def write (l : Layout) (d : Decimal) : List Char :=
  if l.positional d.pointPosition then d.positional l.showsPoint else d.scientific

end Decimal

/-- The text of a double: its sign and its shortest decimal, or a word when it is no finite
number. -/
def writeFloat (l : Layout) (x : Float) : String :=
  if x.isNaN then "NaN"
  else
    let sign := if x.toBits.toNat < 0x8000000000000000 then "" else "-"
    if x.isInf then sign ++ "inf"
    else sign ++ String.ofList ((Magnitude.ofFloat x).shortest.write l)

end TripQuery
