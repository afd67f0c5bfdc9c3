import TripQuery.Query.Decoding
import TripQuery.Search.Basic
import TripQuery.Search.Fault

namespace TripQuery

/-!
# Resolving queries

The search `n` of a query takes the value of every parameter for `n`, a default where there is
none, and fails if the values do not fit together. The instant comes first, then criterion and
weights, then the routes, and last the places.
-/

def nonBlank (s : Option String) : Option String := s.filter fun s => !isBlankText s

/-- What was the criterion of few transfers is a penalty on each of them. -/
def legacyPenalty : UInt32 := 1800

def addSaturating (a b : UInt32) : UInt32 :=
  UInt32.ofNat (min (a.toNat + b.toNat) Numeral.countLimit)

namespace Query

/-- The instant of search `n`. A time without a date may be a whole timestamp. -/
def instant (q : Query) (now : Instant) (n : Nat) : Logged TemporalFault Instant := do
  match nonBlank (q.pick .date n), nonBlank (q.pick .time n) with
  | none, some time =>
      Recorded.note (.readingTimestamp time)
      match Instant.read now.offset time with
      | .ok i => return i
      | .error _ => .ofExcept (Instant.combine none (some time) now)
  | date, time => .ofExcept (Instant.combine date time now)

/-- The criterion and the weights of search `n`, which have to agree. -/
def aim (q : Query) (n : Nat) : Except SearchFault (Criterion × Option Weights) :=
  let criterion := q.pick .optimize n
  match q.pick .triangleSafetyFactor n, q.pick .triangleSlopeFactor n,
    q.pick .triangleTimeFactor n with
  | none, none, none =>
      if criterion = some .triangle then .error .triangleWithoutWeights
      else .ok (criterion.getD .standard, none)
  | some safety, some slope, some time =>
      if criterion = none ∨ criterion = some .triangle then
        match (Weights.mk safety slope time).check with
        | .ok w => .ok (.triangle, some w)
        | .error sum => .error (.weightsNotAffine sum)
      else .error .weightsWithoutTriangle
  | _, _, _ => .error .weightsIncomplete

/-- Reads a list of routes, which is empty when it is not given. -/
def routes : Option String → Except SearchFault (List Route)
  | none => .ok []
  | some s => (Route.readList s).mapError .route

/-- The places to pass. Some clients send one empty place for none. -/
def passedPlaces (q : Query) : List String := if q.places = [""] then [] else q.places

/-- The search `n` as its values make it, before the places are held against the modes. -/
def draft (q : Query) (n : Nat) (instant : Instant) (aim : Criterion × Option Weights)
    (preferred unpreferred banned : List Route) : Search :=
  let penalty := (q.pick .transferPenalty n).getD 0
  { router := q.pick .routerId n
    origin := q.pick .fromPlace n
    destination := q.pick .toPlace n
    places := q.passedPlaces
    placesOrdered := q.placesOrdered.getD false
    instant
    arriveBy := (q.pick .arriveBy n).getD false
    wheelchair := (q.pick .wheelchair n).getD false
    maxWalkDistance := (q.pick .maxWalkDistance n).getD Search.standardWalkDistance
    walkSpeed := (q.pick .walkSpeed n).getD Search.standardWalkSpeed
    criterion := if aim.1 = .transfers then .quick else aim.1
    weights := aim.2
    modes := (q.pick .mode n).getD ModeSet.standard
    transferPenalty :=
      if aim.1 = .transfers then addSaturating penalty legacyPenalty else penalty
    minTransferTime := (q.pick .minTransferTime n).getD Search.standardTransferTime
    maxTransfers := (q.pick .maxTransfers n).getD Search.standardTransfers
    preferred
    unpreferred
    banned
    numItineraries := (q.pick .numItineraries n).getD Search.standardItineraries
    showStops := (q.pick .showIntermediateStops n).getD false
    batch := q.batch.getD false }

def assemble (q : Query) (n : Nat) (instant : Instant) : Except SearchFault Search := do
  let aim ← q.aim n
  let preferred ← routes (q.pick .preferredRoutes n)
  let unpreferred ← routes (q.pick .unpreferredRoutes n)
  let banned ← routes (q.pick .bannedRoutes n)
  let search := q.draft n instant aim preferred unpreferred banned
  if search.ordersTransit then throw .orderedTransit
  return search

def search (q : Query) (now : Instant) (n : Nat) : Logged SearchFault Search := do
  let instant ← (q.instant now n).mapFault .temporal
  let search ← .ofExcept (q.assemble n instant)
  Recorded.note (.resolvedSearch n search.criterion search.modes search.instant)
  return search

/-- All searches of a query, or the fault of the first that has one. -/
def searches (q : Query) (now : Instant) : Logged SearchFault (List Search) :=
  (List.range q.count).mapM (q.search now)

end Query

end TripQuery
