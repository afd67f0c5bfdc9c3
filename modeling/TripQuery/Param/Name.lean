import TripQuery.Param.Kind

namespace TripQuery

/-!
# Parameters

A query describes one search or several. An indexed parameter may be given once for each of them;
a shared one holds for all.
-/

/-- A parameter with a value for each search. -/
inductive Indexed
  | routerId
  | fromPlace
  | toPlace
  | date
  | time
  | arriveBy
  | wheelchair
  | maxWalkDistance
  | walkSpeed
  | triangleSafetyFactor
  | triangleSlopeFactor
  | triangleTimeFactor
  | optimize
  | mode
  | minTransferTime
  | numItineraries
  | preferredRoutes
  | unpreferredRoutes
  | bannedRoutes
  | showIntermediateStops
  | transferPenalty
  | maxTransfers
  deriving DecidableEq, Repr

namespace Indexed

def all : List Indexed :=
  [routerId, fromPlace, toPlace, date, time, arriveBy, wheelchair, maxWalkDistance, walkSpeed,
    triangleSafetyFactor, triangleSlopeFactor, triangleTimeFactor, optimize, mode,
    minTransferTime, numItineraries, preferredRoutes, unpreferredRoutes, bannedRoutes,
    showIntermediateStops, transferPenalty, maxTransfers]

theorem mem_all (p : Indexed) : p ∈ all := by
  cases p <;> decide

@[reducible] def kind : Indexed → Kind
  | routerId | fromPlace | toPlace | date | time => .text
  | preferredRoutes | unpreferredRoutes | bannedRoutes => .text
  | arriveBy | wheelchair | showIntermediateStops => .flag
  | maxWalkDistance | walkSpeed => .real
  | triangleSafetyFactor | triangleSlopeFactor | triangleTimeFactor => .real
  | minTransferTime | numItineraries | transferPenalty | maxTransfers => .count
  | optimize => .criterion
  | mode => .modes

@[reducible] def Value (p : Indexed) : Type := p.kind.Value

def name : Indexed → String
  | routerId => "routerId"
  | fromPlace => "fromPlace"
  | toPlace => "toPlace"
  | date => "date"
  | time => "time"
  | arriveBy => "arriveBy"
  | wheelchair => "wheelchair"
  | maxWalkDistance => "maxWalkDistance"
  | walkSpeed => "walkSpeed"
  | triangleSafetyFactor => "triangleSafetyFactor"
  | triangleSlopeFactor => "triangleSlopeFactor"
  | triangleTimeFactor => "triangleTimeFactor"
  | optimize => "optimize"
  | mode => "mode"
  | minTransferTime => "minTransferTime"
  | numItineraries => "numItineraries"
  | preferredRoutes => "preferredRoutes"
  | unpreferredRoutes => "unpreferredRoutes"
  | bannedRoutes => "bannedRoutes"
  | showIntermediateStops => "showIntermediateStops"
  | transferPenalty => "transferPenalty"
  | maxTransfers => "maxTransfers"

end Indexed

inductive Param
  | indexed (p : Indexed)
  | places
  | placesOrdered
  | batch
  deriving DecidableEq, Repr

namespace Param

/-- Every parameter, in the order in which they are documented. -/
def all : List Param :=
  [.indexed .routerId, .indexed .fromPlace, .indexed .toPlace, .places, .placesOrdered,
    .indexed .date, .indexed .time, .indexed .arriveBy, .indexed .wheelchair,
    .indexed .maxWalkDistance, .indexed .walkSpeed, .indexed .triangleSafetyFactor,
    .indexed .triangleSlopeFactor, .indexed .triangleTimeFactor, .indexed .optimize,
    .indexed .mode, .indexed .minTransferTime, .indexed .numItineraries,
    .indexed .preferredRoutes, .indexed .unpreferredRoutes, .indexed .bannedRoutes,
    .indexed .showIntermediateStops, .indexed .transferPenalty, .indexed .maxTransfers, .batch]

theorem mem_all (p : Param) : p ∈ all := by
  cases p with
  | indexed p => cases p <;> decide
  | places => decide
  | placesOrdered => decide
  | batch => decide

def name : Param → String
  | indexed p => p.name
  | places => "intermediatePlaces"
  | placesOrdered => "intermediatePlacesOrdered"
  | batch => "batch"

def ofName? (s : String) : Option Param := all.find? fun p => decide (p.name = s)

theorem ofName?_name (p : Param) : ofName? p.name = some p := by
  cases p with
  | indexed p => cases p <;> decide +kernel
  | places => decide +kernel
  | placesOrdered => decide +kernel
  | batch => decide +kernel

theorem name_of_ofName? {s : String} {p : Param} (h : ofName? s = some p) : p.name = s := by
  simpa using List.find?_some h

end Param

end TripQuery
