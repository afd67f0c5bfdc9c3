import TripQuery.Calendar.Text
import TripQuery.Search.Basic
import TripQuery.Wire.Document

namespace TripQuery

/-!
# Answers

What a client is told about a search. Instants, criteria, modes and routes are given by their
texts, in the form in which queries take them.
-/

structure Answer where
  router : Option String
  origin : Option String
  destination : Option String
  places : List String
  placesOrdered : Bool
  dateTime : String
  arriveBy : Bool
  wheelchair : Bool
  maxWalkDistance : Float
  walkSpeed : Float
  criterion : String
  weights : Option Weights
  modes : List String
  transferPenalty : UInt32
  minTransferTime : UInt32
  maxTransfers : UInt32
  preferred : List String
  unpreferred : List String
  banned : List String
  numItineraries : UInt32
  showStops : Bool
  batch : Bool

def Search.answer (s : Search) : Answer where
  router := s.router
  origin := s.origin
  destination := s.destination
  places := s.places
  placesOrdered := s.placesOrdered
  dateTime := s.instant.timestamp
  arriveBy := s.arriveBy
  wheelchair := s.wheelchair
  maxWalkDistance := s.maxWalkDistance
  walkSpeed := s.walkSpeed
  criterion := s.criterion.name
  weights := s.weights
  modes := s.modes.members.map Mode.name
  transferPenalty := s.transferPenalty
  minTransferTime := s.minTransferTime
  maxTransfers := s.maxTransfers
  preferred := s.preferred.map Route.text
  unpreferred := s.unpreferred.map Route.text
  banned := s.banned.map Route.text
  numItineraries := s.numItineraries
  showStops := s.showStops
  batch := s.batch

def Weights.document (w : Weights) : Document :=
  .record
    [("safety", .ofFloat w.safety), ("slope", .ofFloat w.slope), ("time", .ofFloat w.time)]

namespace Answer

def texts (ss : List String) : Document := .list (ss.map .text)

def count (n : UInt32) : Document := .number n.toNat

def document (a : Answer) : Document :=
  .record
    [("router_id", .ofText? a.router),
      ("from", .ofText? a.origin),
      ("to", .ofText? a.destination),
      ("intermediate_places", texts a.places),
      ("intermediate_places_ordered", .flag a.placesOrdered),
      ("date_time", .text a.dateTime),
      ("arrive_by", .flag a.arriveBy),
      ("wheelchair", .flag a.wheelchair),
      ("max_walk_distance", .ofFloat a.maxWalkDistance),
      ("walk_speed", .ofFloat a.walkSpeed),
      ("optimize", .text a.criterion),
      ("triangle", match a.weights with
        | some w => w.document
        | none => .null),
      ("modes", texts a.modes),
      ("transfer_penalty", count a.transferPenalty),
      ("min_transfer_time", count a.minTransferTime),
      ("max_transfers", count a.maxTransfers),
      ("preferred_routes", texts a.preferred),
      ("unpreferred_routes", texts a.unpreferred),
      ("banned_routes", texts a.banned),
      ("num_itineraries", count a.numItineraries),
      ("show_intermediate_stops", .flag a.showStops),
      ("batch", .flag a.batch)]

def documentOf (searches : List Search) : Document :=
  .record [("requests", .list (searches.map fun s => s.answer.document))]

end Answer

end TripQuery
