import Turnstile.Text.Decimal
import Turnstile.Text.Hex

/-!
# Network addresses

Source addresses of unauthenticated requests, and the origin under which one is counted.
An IPv4 address is an origin of its own, also where it arrives mapped into IPv6. Any other
IPv6 address is counted by its upper 64 bits, so that the holder of one allocation cannot
go through its addresses to get a fresh budget.

IPv6 text follows RFC 5952: lowercase, no leading zero, and the first of the longest runs
of two or more zero groups written as `::`.
-/

namespace Turnstile

/-- An IPv4 address, by its four octets. -/
structure Ipv4 where
  a : UInt8
  b : UInt8
  c : UInt8
  d : UInt8
  deriving DecidableEq

/-- An IPv6 address, by its eight groups of 16 bits. -/
structure Ipv6 where
  groups : Vector UInt16 8
  deriving DecidableEq

inductive Address where
  | v4 (ip : Ipv4)
  | v6 (ip : Ipv6)
  deriving DecidableEq

/-- Whom a request without a user is counted against. -/
inductive Origin where
  | host (ip : Ipv4)
  | network (upper : Vector UInt16 4)
  deriving DecidableEq

namespace Ipv4

def write (ip : Ipv4) : List Char :=
  Text.Decimal.digits ip.a.toNat ++ '.' :: Text.Decimal.digits ip.b.toNat ++
    '.' :: Text.Decimal.digits ip.c.toNat ++ '.' :: Text.Decimal.digits ip.d.toNat

/-- The address whose two halves are these groups. -/
def ofGroups (hi lo : UInt16) : Ipv4 :=
  ⟨(hi >>> 8).toUInt8, hi.toUInt8, (lo >>> 8).toUInt8, lo.toUInt8⟩

def upperGroup (ip : Ipv4) : UInt16 := ip.a.toUInt16 <<< 8 ||| ip.b.toUInt16

def lowerGroup (ip : Ipv4) : UInt16 := ip.c.toUInt16 <<< 8 ||| ip.d.toUInt16

end Ipv4

namespace Ipv6

/-! ## Writing -/

/-- How many zero groups stand at the front. -/
def zeroRun (gs : List UInt16) : Nat := (gs.takeWhile (· == 0)).length

/-- The start and the length of the first longest run of zero groups. -/
def longestRun (gs : List UInt16) : Nat × Nat :=
  (List.range gs.length).foldl
    (fun best i => let run := zeroRun (gs.drop i); if best.2 < run then (i, run) else best) (0, 0)

/-- Groups with a colon between two of them. -/
def writeGroups : List UInt16 → List Char
  | [] => []
  | [g] => Text.Hex.digits g.toNat
  | g :: h :: r => Text.Hex.digits g.toNat ++ ':' :: writeGroups (h :: r)

/-- Groups with the first longest run of at least two zeros left out. -/
def writeCompressed (gs : List UInt16) : List Char :=
  let (start, len) := longestRun gs
  if len < 2 then writeGroups gs
  else writeGroups (gs.take start) ++ ':' :: ':' :: writeGroups (gs.drop (start + len))

/-! ## Parts -/

/-- The IPv4 address that is mapped into this one (`::ffff:0:0/96`). -/
def mapped? (ip : Ipv6) : Option Ipv4 :=
  if ip.groups.toList.take 6 = [0, 0, 0, 0, 0, 0xFFFF] then
    some (Ipv4.ofGroups ip.groups[6] ip.groups[7])
  else none

/-- The upper 64 bits. -/
def upper (ip : Ipv6) : Vector UInt16 4 :=
  #v[ip.groups[0], ip.groups[1], ip.groups[2], ip.groups[3]]

end Ipv6

namespace Origin

def write : Origin → List Char
  | .host ip => ip.write
  | .network upper => Ipv6.writeCompressed (upper.toList ++ [0, 0, 0, 0]) ++ ['/', '6', '4']

def text (o : Origin) : String := String.ofList o.write

end Origin

namespace Address

/-- The origin an address counts for. -/
def origin : Address → Origin
  | .v4 ip => .host ip
  | .v6 ip =>
    match ip.mapped? with
    | some inner => .host inner
    | none => .network ip.upper

end Address

end Turnstile
