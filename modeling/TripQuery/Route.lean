import TripQuery.Text.Cut
import TripQuery.Text.Quoted
import TripQuery.Text.Blank

namespace TripQuery

/-!
# Routes

A route is written as its agency, an underscore and its name. The first underscore is the one
that divides them, so that a name may hold more of them. Routes are listed between commas.
-/

structure Route where
  agency : String
  name : String
  deriving DecidableEq, Repr

structure MalformedRoute where
  text : String
  deriving DecidableEq, Repr

def MalformedRoute.message (e : MalformedRoute) : String :=
  "invalid route spec " ++ quoted e.text ++ ": expected agency_route"

namespace Route

def text (r : Route) : String := r.agency ++ "_" ++ r.name

def ofChars? (cs : List Char) : Option Route :=
  match cutAt? '_' cs with
  | some (agency, name) =>
      if agency = [] ∨ name = [] then none
      else some ⟨String.ofList agency, String.ofList name⟩
  | none => none

def ofPiece (piece : List Char) : Except MalformedRoute Route :=
  match ofChars? (trim piece) with
  | some r => .ok r
  | none => .error ⟨String.ofList (trim piece)⟩

def read (s : String) : Except MalformedRoute Route := ofPiece s.toList

/-- The pieces between the commas that are not blank. -/
def pieces (cs : List Char) : List (List Char) :=
  (cs.splitOnP (· == ',')).filter fun piece => !piece.all isBlank

/-- Reads a list of routes; blank pieces are passed over. -/
def readList (s : String) : Except MalformedRoute (List Route) :=
  (pieces s.toList).mapM ofPiece

end Route

end TripQuery
