import TripQuery.Calendar.Reading
import TripQuery.Decimal.Layout
import TripQuery.Route

namespace TripQuery

/-!
# Faults of searches

Why the values of a query do not make a search. Each kind of fault has a code that clients can
rely on, and a message for readers.
-/

inductive SearchFault
  | weightsIncomplete
  | weightsWithoutTriangle
  | weightsNotAffine (sum : Float)
  | triangleWithoutWeights
  /-- Places were to be passed in order by transit. -/
  | orderedTransit
  | temporal (fault : TemporalFault)
  | route (fault : MalformedRoute)

namespace SearchFault

def kind : SearchFault → String
  | weightsIncomplete => "TRIANGLE_UNDERSPECIFIED"
  | weightsWithoutTriangle => "TRIANGLE_OPTIMIZE_TYPE_NOT_SET"
  | weightsNotAffine _ => "TRIANGLE_NOT_AFFINE"
  | triangleWithoutWeights => "TRIANGLE_VALUES_NOT_SET"
  | orderedTransit => "UNSUPPORTED_COMBINATION"
  | temporal _ => "MALFORMED_DATE_TIME"
  | route _ => "MALFORMED_ROUTE_SPEC"

def message : SearchFault → String
  | weightsIncomplete =>
      "all of triangleSafetyFactor, triangleSlopeFactor and triangleTimeFactor must be set"
  | weightsWithoutTriangle => "triangle factors were given but optimize is not TRIANGLE"
  | weightsNotAffine sum => "triangle factors must sum to 1, got " ++ writeFloat .message sum
  | triangleWithoutWeights => "optimize is TRIANGLE but no triangle factors were given"
  | orderedTransit => "ordered intermediate places are not supported for transit trips"
  | temporal fault => "malformed date/time: " ++ fault.message
  | route fault => "malformed route filter: " ++ fault.message

end SearchFault

end TripQuery
