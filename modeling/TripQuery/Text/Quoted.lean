import TripQuery.Text.GraphemeExtend
import TripQuery.Text.Printable

namespace TripQuery

/-!
# Quoted texts

A quoted text stands between double quotes. Quotes and backslashes inside it are preceded by a
backslash, the control characters with a short name are written by it, and every other character
that is unprintable or combines with the one before it is written by its code point in hexadecimal.
-/

/-- A backslash and the code point in braces, in lower-case hexadecimal. -/
def escapeCodePoint (c : Char) : List Char :=
  ['\\', 'u', '\x7b'] ++ Nat.toDigits 16 c.toNat ++ ['\x7d']

def escapeChar (c : Char) : List Char :=
  if c = '"' then ['\\', '"']
  else if c = '\\' then ['\\', '\\']
  else if c = '\x00' then ['\\', '0']
  else if c = '\t' then ['\\', 't']
  else if c = '\n' then ['\\', 'n']
  else if c = '\r' then ['\\', 'r']
  else if isCombining c || !isPrintable c then escapeCodePoint c
  else [c]

def quote (cs : List Char) : List Char := '"' :: cs.flatMap escapeChar ++ ['"']

@[simp] theorem quote_nil : quote [] = ['"', '"'] := rfl

def quoted (s : String) : String := String.ofList (quote s.toList)

end TripQuery
