import TripQuery.Decimal.Layout

namespace TripQuery

/-!
# Documents

The answers of the service are JSON documents, written without spaces. A record keeps its fields
in the order given.
-/

inductive Document
  | null
  | flag (b : Bool)
  | number (n : Nat)
  | real (x : Float)
  | text (s : String)
  | list (items : List Document)
  | record (fields : List (String × Document))

namespace Document

/-- A real number; there is no way to write one that is not finite. -/
def ofFloat (x : Float) : Document := if x.isFinite then real x else null

def ofText? : Option String → Document
  | some s => text s
  | none => null

def escapeChar (c : Char) : List Char :=
  if c = '"' then ['\\', '"']
  else if c = '\\' then ['\\', '\\']
  else if c = '\n' then ['\\', 'n']
  else if c = '\r' then ['\\', 'r']
  else if c = '\t' then ['\\', 't']
  else if c = '\x08' then ['\\', 'b']
  else if c = '\x0c' then ['\\', 'f']
  else if c.toNat < 0x20 then
    ['\\', 'u'] ++ (Nat.toDigits 16 c.toNat).leftpad 4 '0'
  else [c]

def writeText (s : String) : String :=
  String.ofList ('"' :: s.toList.flatMap escapeChar ++ ['"'])

mutual

def write : Document → String
  | null => "null"
  | flag b => if b then "true" else "false"
  | number n => toString n
  | real x => writeFloat .document x
  | text s => writeText s
  | list items => "[" ++ ",".intercalate (writeItems items) ++ "]"
  | record fields => "\x7b" ++ ",".intercalate (writeFields fields) ++ "\x7d"

def writeItems : List Document → List String
  | [] => []
  | d :: ds => d.write :: writeItems ds

def writeFields : List (String × Document) → List String
  | [] => []
  | (name, d) :: fields => (writeText name ++ ":" ++ d.write) :: writeFields fields

end

end Document

end TripQuery
