import TripQuery.Event
import TripQuery.Query.Basic
import TripQuery.Text.Quoted

namespace TripQuery

/-!
# Decoding queries

A query arrives as pairs of a name and a text. Each pair whose name is known sets one value, and
the first text that cannot be read ends the decoding. Of a flag that holds for all searches the
first value counts, though the others have to be readable too.
-/

inductive Setting
  | indexed (p : Indexed) (v : p.Value)
  | place (s : String)
  | placesOrdered (b : Bool)
  | batch (b : Bool)

namespace Setting

def at? (p : Indexed) : Setting → Option p.Value
  | indexed r v => if h : r = p then some (h ▸ v) else none
  | _ => none

def place? : Setting → Option String
  | place s => some s
  | _ => none

def placesOrdered? : Setting → Option Bool
  | placesOrdered b => some b
  | _ => none

def batch? : Setting → Option Bool
  | batch b => some b
  | _ => none

@[simp] theorem at?_indexed_self (p : Indexed) (v : p.Value) : (indexed p v).at? p = some v := by
  simp [at?]

theorem at?_indexed_of_ne {p r : Indexed} (v : r.Value) (h : r ≠ p) :
    (indexed r v).at? p = none := by
  simp [at?, h]

end Setting

def Param.read : Param → String → Except ValueCause Setting
  | .indexed p, s => (p.kind.read s).map (.indexed p)
  | .places, s => .ok (.place s)
  | .placesOrdered, s => (Kind.readFlag s).map .placesOrdered
  | .batch, s => (Kind.readFlag s).map .batch

structure ParamFault where
  name : String
  text : String
  cause : ValueCause
  deriving DecidableEq, Repr

def ParamFault.message (f : ParamFault) : String :=
  "invalid value " ++ quoted f.text ++ " for parameter " ++ f.name ++ ": " ++ f.cause.message

namespace Query

def ofSettings (settings : List Setting) : Query where
  values p := settings.filterMap (·.at? p)
  places := settings.filterMap Setting.place?
  placesOrdered := settings.findSome? Setting.placesOrdered?
  batch := settings.findSome? Setting.batch?

@[simp] theorem ofSettings_nil : ofSettings [] = empty := rfl

/-- Reads one pair; an unknown name sets nothing. -/
def readPair : String × String → Logged ParamFault (Option Setting)
  | (name, text) =>
      match Param.ofName? name with
      | none => do
          Recorded.note (.ignoredParameter name)
          return none
      | some p =>
          match p.read text with
          | .ok s => return some s
          | .error cause => .fail ⟨name, text, cause⟩

def decode (pairs : List (String × String)) : Logged ParamFault Query := do
  let settings ← pairs.mapM readPair
  return ofSettings (settings.filterMap id)

end Query

end TripQuery
