import Turnstile.Address

/-!
# Reading network addresses

IPv4 is exactly four decimal octets of at most three digits, without leading zeros.

IPv6 is groups of one to four hexadecimal digits. At most one `::` stands for one or more
zero groups, and the last 32 bits may be in IPv4 form. The reading is greedy: groups are
taken as far as they go, then `::` and the groups after it if fewer than eight were found.
-/

namespace Turnstile

open Turnstile.Text

/-- An octet: at most three digits, no leading zero, at most 255. -/
def readOctet? (cs : List Char) : Option (UInt8 × List Char) :=
  let ds := cs.takeWhile Char.isDigit
  let n := Decimal.value ds
  if ds.isEmpty ∨ 3 < ds.length ∨ (ds.head? = some '0' ∧ 1 < ds.length) ∨ 255 < n then none
  else some (UInt8.ofNat n, cs.drop ds.length)

def skipChar? (sep : Char) : List Char → Option (List Char)
  | c :: r => if c = sep then some r else none
  | [] => none

/-- An IPv4 address at the front of a text. -/
def Ipv4.take? (cs : List Char) : Option (Ipv4 × List Char) := do
  let (a, r) ← readOctet? cs
  let (b, r) ← readOctet? (← skipChar? '.' r)
  let (c, r) ← readOctet? (← skipChar? '.' r)
  let (d, r) ← readOctet? (← skipChar? '.' r)
  some (⟨a, b, c, d⟩, r)

namespace Ipv6

/-- A group of one to four hexadecimal digits at the front of a text. -/
def takeGroup? (cs : List Char) : Option (UInt16 × List Char) := do
  let ds := cs.takeWhile fun c => (Hex.value? c).isSome
  if ds.isEmpty ∨ 4 < ds.length then none
  else
    let (n, _) ← Hex.take? ds.length 0 ds
    some (UInt16.ofNat n, cs.drop ds.length)

/-- What a run of groups holds. -/
structure Groups where
  groups : List UInt16
  /-- Whether the last two groups were in IPv4 form. -/
  endsInIpv4 : Bool
  rest : List Char

/-- As many groups as there are at the front of a text, at most `limit`, each after a colon
except the first of all. An IPv4 form takes the room of two groups and ends the run. -/
def takeGroups : (limit : Nat) → (first : Bool) → List Char → Groups
  | 0, _, cs => ⟨[], false, cs⟩
  | limit + 1, first, cs =>
    match if first then some cs else skipChar? ':' cs with
    | none => ⟨[], false, cs⟩
    | some r =>
      match if 0 < limit then Ipv4.take? r else none with
      | some (ip, rest) => ⟨[ip.upperGroup, ip.lowerGroup], true, rest⟩
      | none =>
        match takeGroup? r with
        | none => ⟨[], false, cs⟩
        | some (g, rest) =>
          let tail := takeGroups limit false rest
          ⟨g :: tail.groups, tail.endsInIpv4, tail.rest⟩

/-- The address of these groups, if there are eight of them. -/
def ofGroups? (gs : List UInt16) : Option Ipv6 :=
  if h : gs.toArray.size = 8 then some ⟨⟨gs.toArray, h⟩⟩ else none

def read? (cs : List Char) : Option Ipv6 := do
  let front := takeGroups 8 true cs
  if front.groups.length = 8 then
    if front.rest.isEmpty then ofGroups? front.groups else none
  else if front.endsInIpv4 then none
  else
    let r ← skipChar? ':' (← skipChar? ':' front.rest)
    let back := takeGroups (7 - front.groups.length) true r
    let zeros := List.replicate (8 - front.groups.length - back.groups.length) 0
    if back.rest.isEmpty then ofGroups? (front.groups ++ zeros ++ back.groups) else none

end Ipv6

namespace Address

def read? (cs : List Char) : Option Address :=
  match Ipv4.take? cs with
  | some (ip, rest) => if rest.isEmpty then some (.v4 ip) else none
  | none => (Ipv6.read? cs).map .v6

def ofText? (s : String) : Option Address := read? s.toList

/-- Shown where a text is no address. -/
def invalidMessage : String := "invalid IP address syntax"

end Address

end Turnstile
