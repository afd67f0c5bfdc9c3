import TripQuery.Text.Cut
import TripQuery.Text.Front
import TripQuery.Wire.Utf8

namespace TripQuery

/-!
# Query strings

A query string lists pairs between ampersands, each a name and a text around the first equals
sign. In both, a plus stands for a blank, and a percent sign with two hexadecimal digits for a
byte; the bytes are then decoded.
-/

namespace QueryString

def ampersand : UInt8 := 0x26

def equalsSign : UInt8 := 0x3D

def percent : UInt8 := 0x25

def plus : UInt8 := 0x2B

def space : UInt8 := 0x20

def bytes (s : String) : List UInt8 := s.toList.flatMap String.utf8EncodeChar

def plusToSpace (bs : List UInt8) : List UInt8 := bs.map fun b => if b = plus then space else b

def hexByte? (high low : UInt8) : Option UInt8 :=
  match hexDigit? (Char.ofNat high.toNat), hexDigit? (Char.ofNat low.toNat) with
  | some h, some l => some (UInt8.ofNat (16 * h + l))
  | _, _ => none

/-- Replaces what stands for a byte by the byte. A percent sign without two digits stays. -/
def percentDecode : List UInt8 → List UInt8
  | b :: high :: low :: rest =>
      if b = percent then
        match hexByte? high low with
        | some x => x :: percentDecode rest
        | none => b :: percentDecode (high :: low :: rest)
      else b :: percentDecode (high :: low :: rest)
  | bs => bs

/-- The text written by a name or a value. -/
def component (bs : List UInt8) : String :=
  String.ofList (Utf8.decode (percentDecode (plusToSpace bs)))

/-- The pair written by a piece; without an equals sign it has an empty text. -/
def pair (piece : List UInt8) : String × String :=
  match cutAt? equalsSign piece with
  | some (name, text) => (component name, component text)
  | none => (component piece, "")

/-- The pairs of a query string; empty pieces are passed over. -/
def pairs (s : String) : List (String × String) :=
  (((bytes s).splitOnP (· == ampersand)).filter fun piece => !piece.isEmpty).map pair

end QueryString

end TripQuery
