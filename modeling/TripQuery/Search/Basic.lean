import TripQuery.Calendar.Instant
import TripQuery.Criterion
import TripQuery.Mode
import TripQuery.Route
import TripQuery.Search.Weights

namespace TripQuery

/-!
# Searches

A search is one fully specified question to a journey planner, with nothing left open.
-/

structure Search where
  /-- The router to ask, where there are several. -/
  router : Option String
  /-- Coordinates or a label. -/
  origin : Option String
  destination : Option String
  places : List String
  placesOrdered : Bool
  /-- Departure, or arrival if `arriveBy` is set. -/
  instant : Instant
  arriveBy : Bool
  wheelchair : Bool
  /-- In metres. -/
  maxWalkDistance : Float
  /-- In metres a second. -/
  walkSpeed : Float
  criterion : Criterion
  weights : Option Weights
  modes : ModeSet
  /-- The cost of each boarding after the first. -/
  transferPenalty : UInt32
  /-- In seconds. -/
  minTransferTime : UInt32
  maxTransfers : UInt32
  preferred : List Route
  unpreferred : List Route
  banned : List Route
  numItineraries : UInt32
  showStops : Bool
  batch : Bool

namespace Search

/-- About half a mile. -/
def standardWalkDistance : Float := 800.0

/-- About three miles an hour. -/
def standardWalkSpeed : Float := 1.33

def standardTransferTime : UInt32 := 240

def standardItineraries : UInt32 := 3

def standardTransfers : UInt32 := 2

/-- The search at an instant that asks for nothing in particular. -/
def standard (instant : Instant) : Search where
  router := none
  origin := none
  destination := none
  places := []
  placesOrdered := false
  instant := instant
  arriveBy := false
  wheelchair := false
  maxWalkDistance := standardWalkDistance
  walkSpeed := standardWalkSpeed
  criterion := Criterion.standard
  weights := none
  modes := ModeSet.standard
  transferPenalty := 0
  minTransferTime := standardTransferTime
  maxTransfers := standardTransfers
  preferred := []
  unpreferred := []
  banned := []
  numItineraries := standardItineraries
  showStops := false
  batch := false

/-- Whether transit would have to pass places in a fixed order, which no planner does. -/
def ordersTransit (s : Search) : Bool :=
  !s.places.isEmpty && s.placesOrdered && s.modes.isTransit

end Search

end TripQuery
