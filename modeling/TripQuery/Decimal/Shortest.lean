namespace TripQuery

/-!
# Shortest decimals

A positive double stands for every real number that rounds to it, an interval around its value.
Among the decimal grids, the multiples of a power of ten, the coarsest one with a point in that
interval gives the decimal with the fewest digits that reads back as the same double. Of two
points of that grid the nearer one is taken, and the upper one when both are equally near.
-/

/-- A decimal number `digits * 10 ^ exponent`. -/
structure Decimal where
  digits : Nat
  exponent : Int
  deriving DecidableEq, Repr

/-- The magnitude `significand * 2 ^ exponent` of a finite double. -/
structure Magnitude where
  significand : Nat
  exponent : Int
  deriving DecidableEq, Repr

namespace Magnitude

/-- The number of fractions of a double, and the least significand with an exponent of its own. -/
def leading : Nat := 0x10000000000000

/-- The magnitude of a finite double, from its exponent field and its fraction field. -/
def ofFloat (x : Float) : Magnitude :=
  let bits := x.toBits.toNat
  let fraction : Nat := bits % leading
  let field : Nat := bits / leading % 2048
  if field = 0 then ⟨fraction, -1074⟩ else ⟨leading + fraction, (field : Int) - 1075⟩

/-- The distance to the lower end of the interval, in quarters of the last place: below a power
of two the doubles lie twice as close. -/
def below (x : Magnitude) : Nat :=
  if x.significand = leading ∧ -1074 < x.exponent then 1 else 2

/-- A grid of powers of ten, scaled so that the quarters of the last place and the points of the
grid are whole multiples of `quarter` and of `point`. -/
structure Grid where
  quarter : Nat
  point : Nat

def grid (x : Magnitude) (e : Int) : Grid where
  quarter := Nat.pow 10 (-e).toNat * Nat.pow 2 (x.exponent - 2).toNat
  point := Nat.pow 10 e.toNat * Nat.pow 2 (2 - x.exponent).toNat

/-- Whether the multiple `d` of `10 ^ e` rounds to the double: the ends of the interval belong to
it when the significand is even. -/
def admits (x : Magnitude) (e : Int) (d : Nat) : Bool :=
  let g := x.grid e
  let low := (4 * x.significand - x.below) * g.quarter
  let high := (4 * x.significand + 2) * g.quarter
  if x.significand % 2 = 0 then decide (low ≤ d * g.point ∧ d * g.point ≤ high)
  else decide (low < d * g.point ∧ d * g.point < high)

/-- The best multiple of `10 ^ e` that rounds to the double. -/
def onGrid? (x : Magnitude) (e : Int) : Option Nat :=
  let g := x.grid e
  let value := 4 * x.significand * g.quarter
  let d := value / g.point
  match x.admits e d, x.admits e (d + 1) with
  | true, true => some (if g.point ≤ 2 * (value % g.point) then d + 1 else d)
  | true, false => some d
  | false, true => some (d + 1)
  | false, false => none

/-- Tries the grids from `10 ^ e` on, each ten times finer than the one before. -/
def search (x : Magnitude) : Nat → Int → Decimal
  | 0, e => ⟨0, e⟩
  | fuel + 1, e =>
      match x.onGrid? e with
      | some d => ⟨d, e⟩
      | none => x.search fuel (e - 1)

/-- An exponent whose power of ten exceeds the magnitude. -/
def ceiling (x : Magnitude) : Int :=
  let width := x.exponent + x.significand.log2 + 1
  max (width / 3) (width / 4) + 1

/-- The shortest decimal that reads back as the double. No double needs more than a hundred grids
from its ceiling on. -/
def shortest (x : Magnitude) : Decimal :=
  if x.significand = 0 then ⟨0, 0⟩ else x.search 100 x.ceiling

end Magnitude

end TripQuery
