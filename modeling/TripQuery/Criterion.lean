import TripQuery.Text.Blank

namespace TripQuery

/-!
# Criteria

A search optimizes one criterion. The criterion of few transfers is still accepted in queries but
never part of a search.
-/

inductive Criterion
  | quick
  | safe
  | flat
  | greenways
  | triangle
  | transfers
  deriving DecidableEq, Repr

namespace Criterion

def all : List Criterion := [quick, safe, flat, greenways, triangle, transfers]

def name : Criterion → String
  | quick => "QUICK"
  | safe => "SAFE"
  | flat => "FLAT"
  | greenways => "GREENWAYS"
  | triangle => "TRIANGLE"
  | transfers => "TRANSFERS"

def standard : Criterion := quick

def ofWord? (word : List Char) : Option Criterion :=
  all.find? fun c => decide (c.name.toList = word.map Char.toUpper)

structure Unknown where
  text : String
  deriving DecidableEq, Repr

def Unknown.message (e : Unknown) : String := "invalid optimize type: " ++ e.text

/-- Reads a criterion, with blanks around its name. -/
def read (s : String) : Except Unknown Criterion :=
  match ofWord? (trim s.toList) with
  | some c => .ok c
  | none => .error ⟨s⟩

theorem ofWord?_name (c : Criterion) : ofWord? c.name.toList = some c := by
  cases c <;> decide +kernel

end Criterion

end TripQuery
