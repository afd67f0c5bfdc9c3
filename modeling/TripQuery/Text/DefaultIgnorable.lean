import TripQuery.Text.CodePointSet

namespace TripQuery

/-!
# Ignorable characters

The characters of the Unicode property `Default_Ignorable_Code_Point`, which show nothing where
they are not supported: joiners, variation selectors, fillers and the like. The fillers are
letters, but a reader cannot see them.
-/

/-- The Unicode property `Default_Ignorable_Code_Point`. -/
def defaultIgnorable : CodePointSet := ⟨[
  0xAD, 0xAE, 0x34F, 0x350, 0x61C, 0x61D, 0x115F, 0x1161, 0x17B4, 0x17B6, 0x180B, 0x1810, 0x200B,
  0x2010, 0x202A, 0x202F, 0x2060, 0x2070, 0x3164, 0x3165, 0xFE00, 0xFE10, 0xFEFF, 0xFF00, 0xFFA0,
  0xFFA1, 0xFFF0, 0xFFF9, 0x1BCA0, 0x1BCA4, 0x1D173, 0x1D17B, 0xE0000, 0xE1000]⟩

def isDefaultIgnorable (c : Char) : Bool := defaultIgnorable.contains c.toNat

end TripQuery
