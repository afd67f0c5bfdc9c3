import TripQuery.Text.Front

namespace TripQuery

/-!
# Socket addresses

An address of version 4 is four numbers between points; one of version 6 is eight groups of
hexadecimal digits between colons, where a double colon stands for one or more groups of zero and
the last two groups may be written as an address of version 4. A port follows, and in version 6 a
scope may stand in front of it.
-/

def decimal? (limit : Nat) (cs : List Char) : Option (Nat × List Char) :=
  let ds := cs.takeWhile Char.isDigit
  let n := Nat.ofDigitChars 10 ds 0
  if ds ≠ [] ∧ n ≤ limit then some (n, cs.dropWhile Char.isDigit) else none

structure Ipv4 where
  a : UInt8
  b : UInt8
  c : UInt8
  d : UInt8
  deriving DecidableEq

namespace Ipv4

/-- Reads one of the four numbers. No zero stands in front of other digits. -/
def octet? (cs : List Char) : Option (UInt8 × List Char) :=
  let ds := cs.takeWhile Char.isDigit
  if 1 < ds.length ∧ ds.head? = some '0' then none
  else (decimal? 255 cs).map fun (n, rest) => (UInt8.ofNat n, rest)

def read? (cs : List Char) : Option (Ipv4 × List Char) := do
  let (a, cs) ← octet? cs
  let cs ← expect? '.' cs
  let (b, cs) ← octet? cs
  let cs ← expect? '.' cs
  let (c, cs) ← octet? cs
  let cs ← expect? '.' cs
  let (d, cs) ← octet? cs
  return (⟨a, b, c, d⟩, cs)

/-- The two groups that the address fills in one of version 6. -/
def groups (ip : Ipv4) : List UInt16 :=
  [256 * ip.a.toUInt16 + ip.b.toUInt16, 256 * ip.c.toUInt16 + ip.d.toUInt16]

def ofGroups (high low : UInt16) : Ipv4 :=
  ⟨(high / 256).toUInt8, high.toUInt8, (low / 256).toUInt8, low.toUInt8⟩

def text (ip : Ipv4) : String :=
  ".".intercalate ([ip.a, ip.b, ip.c, ip.d].map fun x => toString x.toNat)

end Ipv4

structure Ipv6 where
  groups : List UInt16
  length_groups : groups.length = 8
  deriving DecidableEq

namespace Ipv6

def ofGroups? (groups : List UInt16) : Option Ipv6 :=
  if h : groups.length = 8 then some ⟨groups, h⟩ else none

def group? (cs : List Char) : Option (UInt16 × List Char) :=
  let ds := cs.takeWhile fun c => (hexDigit? c).isSome
  if ds = [] ∨ 4 < ds.length then none
  else
    let n := (ds.filterMap hexDigit?).foldl (fun n d => 16 * n + d) 0
    some (UInt16.ofNat n, cs.drop ds.length)

/-- Groups read off the front; the flag tells whether the last two were written as an address of
version 4. -/
structure Run where
  groups : List UInt16
  endsInIpv4 : Bool
  rest : List Char

/-- Reads at most so many groups, with colons between them. An address of version 4 takes the
place of two. -/
def run : Nat → Bool → List Char → Run
  | 0, _, cs => ⟨[], false, cs⟩
  | n + 1, isFirst, cs =>
      match if isFirst then some cs else expect? ':' cs with
      | none => ⟨[], false, cs⟩
      | some body =>
          match if 0 < n then Ipv4.read? body else none with
          | some (ip, rest) => ⟨ip.groups, true, rest⟩
          | none =>
              match group? body with
              | some (g, rest) =>
                  let tail := run n false rest
                  ⟨g :: tail.groups, tail.endsInIpv4, tail.rest⟩
              | none => ⟨[], false, cs⟩

def read? (cs : List Char) : Option (Ipv6 × List Char) :=
  let front := run 8 true cs
  if front.groups.length = 8 then
    (ofGroups? front.groups).map fun ip => (ip, front.rest)
  else if front.endsInIpv4 then none
  else do
    let cs ← expect? ':' front.rest
    let cs ← expect? ':' cs
    let back := run (7 - front.groups.length) true cs
    let zeros := List.replicate (8 - front.groups.length - back.groups.length) 0
    let ip ← ofGroups? (front.groups ++ zeros ++ back.groups)
    return (ip, back.rest)

/-- The number of groups of zero from a place on. -/
def zerosFrom (gs : List UInt16) (i : Nat) : Nat := ((gs.drop i).takeWhile (· == 0)).length

/-- Where the longest run of groups of zero starts; of equally long ones, the first. -/
def longestZeros (gs : List UInt16) : Nat :=
  (List.range gs.length).foldl
    (fun best i => if zerosFrom gs best < zerosFrom gs i then i else best) 0

def groupsText (gs : List UInt16) : String :=
  ":".intercalate (gs.map fun g => String.ofList (Nat.toDigits 16 g.toNat))

/-- The canonical form: the longest run of two or more groups of zero is left out, and an address
that stands for one of version 4 shows it. -/
def text (ip : Ipv6) : String :=
  match ip.groups with
  | [0, 0, 0, 0, 0, 0xffff, high, low] => "::ffff:" ++ (Ipv4.ofGroups high low).text
  | gs =>
      let i := longestZeros gs
      let n := zerosFrom gs i
      if n < 2 then groupsText gs
      else groupsText (gs.take i) ++ "::" ++ groupsText (gs.drop (i + n))

end Ipv6

inductive SocketAddress
  | v4 (ip : Ipv4) (port : UInt16)
  | v6 (ip : Ipv6) (scope : UInt32) (port : UInt16)
  deriving DecidableEq

namespace SocketAddress

/-- Reads the port, which ends the text. -/
def port? (cs : List Char) : Option UInt16 := do
  let cs ← expect? ':' cs
  let (n, cs) ← decimal? 65535 cs
  if cs = [] then some (UInt16.ofNat n) else none

/-- Reads a scope after a percent sign; without one the scope is zero. -/
def scope (cs : List Char) : UInt32 × List Char :=
  match (expect? '%' cs).bind (decimal? 4294967295) with
  | some (n, rest) => (UInt32.ofNat n, rest)
  | none => (0, cs)

def readV4? (cs : List Char) : Option SocketAddress := do
  let (ip, cs) ← Ipv4.read? cs
  let port ← port? cs
  return v4 ip port

def readV6? (cs : List Char) : Option SocketAddress := do
  let cs ← expect? '[' cs
  let (ip, cs) ← Ipv6.read? cs
  let (scope, cs) := scope cs
  let cs ← expect? ']' cs
  let port ← port? cs
  return v6 ip scope port

def read? (s : String) : Option SocketAddress := readV4? s.toList <|> readV6? s.toList

def text : SocketAddress → String
  | v4 ip port => ip.text ++ ":" ++ toString port.toNat
  | v6 ip scope port =>
      "[" ++ ip.text ++ (if scope = 0 then "" else "%" ++ toString scope.toNat) ++ "]:" ++
        toString port.toNat

end SocketAddress

end TripQuery
