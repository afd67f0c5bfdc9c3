namespace TripQuery

/-!
# Decoding UTF-8

Bytes are decoded one after another. What does not begin a character, and what begins one that is
not carried on, is replaced by U+FFFD: one replacement for each longest beginning of a character.
-/

namespace Utf8

/-- A character that has begun: the bytes still missing, the bounds of the next one, and the bits
gathered so far. -/
structure Pending where
  missing : Nat
  low : Nat
  high : Nat
  bits : Nat

def replacement : Char := '\ufffd'

/-- What a byte gives: the characters that are complete, and the one that has begun. -/
abbrev Step := List Char × Option Pending

/-- A byte that has to begin a character. -/
def start (b : Nat) : Step :=
  if b < 0x80 then ([Char.ofNat b], none)
  else if b < 0xC2 then ([replacement], none)
  else if b < 0xE0 then ([], some ⟨1, 0x80, 0xBF, b - 0xC0⟩)
  else if b < 0xF0 then
    ([], some ⟨2, if b = 0xE0 then 0xA0 else 0x80, if b = 0xED then 0x9F else 0xBF, b - 0xE0⟩)
  else if b < 0xF5 then
    ([], some ⟨3, if b = 0xF0 then 0x90 else 0x80, if b = 0xF4 then 0x8F else 0xBF, b - 0xF0⟩)
  else ([replacement], none)

/-- A byte after what has begun. -/
def next (b : Nat) : Option Pending → Step
  | none => start b
  | some p =>
      if p.low ≤ b ∧ b ≤ p.high then
        let bits := 64 * p.bits + (b - 0x80)
        if p.missing ≤ 1 then ([Char.ofNat bits], none)
        else ([], some ⟨p.missing - 1, 0x80, 0xBF, bits⟩)
      else
        let (cs, pending) := start b
        (replacement :: cs, pending)

/-- Decodes the bytes after what has begun. -/
def decodeFrom : Option Pending → List UInt8 → List Char
  | none, [] => []
  | some _, [] => [replacement]
  | pending, b :: bs =>
      let (cs, pending) := next b.toNat pending
      cs ++ decodeFrom pending bs

def decode (bs : List UInt8) : List Char := decodeFrom none bs

@[simp] theorem decode_nil : decode [] = [] := rfl

end Utf8

end TripQuery
