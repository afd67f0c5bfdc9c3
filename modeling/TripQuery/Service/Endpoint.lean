import TripQuery.Search.Answer
import TripQuery.Search.Resolution
import TripQuery.Wire.QueryString

namespace TripQuery

/-!
# Endpoints

The service resolves the first search of a query, or all of them, and answers a document. What
cannot be resolved is rejected with a code and a message, and the rejection is noted.
-/

inductive Rejection
  | param (fault : ParamFault)
  | search (fault : SearchFault)
  | setTooLarge (count limit : Nat)

namespace Rejection

def kind : Rejection → String
  | param _ => "INVALID_PARAMETER"
  | search fault => fault.kind
  | setTooLarge .. => "PLAN_SET_TOO_LARGE"

def message : Rejection → String
  | param fault => fault.message
  | search fault => fault.message
  | setTooLarge count limit =>
      "plan set of " ++ toString count ++ " requests exceeds the limit of " ++ toString limit

/-- The document that tells a client why its call was rejected. -/
def document (r : Rejection) : Document :=
  .record [("error", .text r.message), ("kind", .text r.kind)]

end Rejection

inductive Body
  | empty
  | text (s : String)
  | document (d : Document)

/-- The kind of content, and nothing for no content. -/
def Body.contentType : Body → Option String
  | empty => none
  | text _ => some "text/plain; charset=utf-8"
  | document _ => some "application/json"

def Body.write : Body → String
  | empty => ""
  | text s => s
  | document d => d.write

structure Response where
  status : Status
  contentType : Option String
  /-- The methods that are allowed, where the one asked for is not. -/
  allow : Option String
  body : Body

namespace Response

def ofBody (status : Status) (body : Body) : Response := ⟨status, body.contentType, none, body⟩

def notFound : Response := ofBody .notFound .empty

def methodNotAllowed : Response := ⟨.methodNotAllowed, none, some "GET,HEAD", .empty⟩

def headOnly (r : Response) : Response := { r with body := .empty }

def line (r : Response) : String := r.status.text ++ " " ++ r.body.write

end Response

/-- A request: its method, and its target. A target is a path that a query may follow; a scheme
and an authority may stand in front of it. -/
structure Request where
  method : String
  target : String

namespace Request

/-- The request on one line: its method and its target, with a blank between them. -/
def ofLine (s : String) : Request :=
  let cs := trim s.toList
  ⟨String.ofList (cs.takeWhile (!isBlank ·)), trimmed (String.ofList (cs.dropWhile (!isBlank ·)))⟩

/-- What stands behind the scheme and its two slashes, if the target has a scheme. -/
def behindScheme? (target : List Char) : Option (List Char) :=
  match cutAt? ':' target with
  | some (scheme, '/' :: '/' :: rest) => if '/' ∈ scheme ∨ '?' ∈ scheme then none else some rest
  | _ => none

/-- The path and the query of a target. Behind an authority, no path is that of the root. -/
def withoutAuthority (target : List Char) : List Char :=
  match behindScheme? target with
  | none => target
  | some rest =>
      match rest.dropWhile fun c => c ≠ '/' ∧ c ≠ '?' with
      | '/' :: cs => '/' :: cs
      | cs => '/' :: cs

/-- The path and the query, in front of a fragment. -/
def resource (r : Request) : List Char :=
  withoutAuthority (r.target.toList.takeWhile (· ≠ '#'))

def path (r : Request) : String := String.ofList (r.resource.takeWhile (· ≠ '?'))

/-- The query behind the path; without one it is empty. -/
def query (r : Request) : String := String.ofList ((r.resource.dropWhile (· ≠ '?')).drop 1)

end Request

namespace Endpoint

/-- Resolves the first search of a query. -/
def plan (now : Instant) (query : String) : Logged Rejection (List Search) := do
  let q ← (Query.decode (QueryString.pairs query)).mapFault .param
  let search ← (q.search now 0).mapFault .search
  return [search]

/-- Resolves all searches of a query, of which there are at most `limit`. -/
def planSet (limit : Nat) (now : Instant) (query : String) : Logged Rejection (List Search) := do
  let q ← (Query.decode (QueryString.pairs query)).mapFault .param
  if limit < q.count then .fail (.setTooLarge q.count limit)
  else
    let searches ← (q.searches now).mapFault .search
    Recorded.note (.resolvedSet q.count)
    return searches

/-- The response to a call; a rejection is noted after everything else. -/
def respond (x : Logged Rejection (List Search)) : List Event × Response :=
  match x.outcome with
  | .ok searches => (x.events, .ofBody .ok (.document (Answer.documentOf searches)))
  | .error r =>
      (x.events ++ [.rejected .badRequest r.kind r.message],
        .ofBody .badRequest (.document r.document))

/-- The response to a request to read a known path. -/
def get? (limit : Nat) (now : Instant) (r : Request) : Option (List Event × Response) :=
  if r.path = "/health" then some ([], .ofBody .ok (.text "ok"))
  else if r.path = "/plan" then some (respond (plan now r.query))
  else if r.path = "/plan/set" then some (respond (planSet limit now r.query))
  else none

/-- What is noted, and the response. A known path can only be read. -/
def handle (limit : Nat) (now : Instant) (r : Request) : List Event × Response :=
  match get? limit now r with
  | none => ([], .notFound)
  | some (events, response) =>
      if r.method = "GET" then (events, response)
      else if r.method = "HEAD" then (events, response.headOnly)
      else ([], .methodNotAllowed)

end Endpoint

end TripQuery
