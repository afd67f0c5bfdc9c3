namespace TripQuery

/-!
# Statuses

How a request ended, as a number for programs and a phrase for readers.
-/

inductive Status
  | ok
  | badRequest
  | notFound
  | methodNotAllowed
  deriving DecidableEq, Repr

namespace Status

def code : Status → Nat
  | ok => 200
  | badRequest => 400
  | notFound => 404
  | methodNotAllowed => 405

def phrase : Status → String
  | ok => "OK"
  | badRequest => "Bad Request"
  | notFound => "Not Found"
  | methodNotAllowed => "Method Not Allowed"

def text (s : Status) : String := toString s.code ++ " " ++ s.phrase

end Status

end TripQuery
