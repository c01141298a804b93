import Turnstile.Address
import Turnstile.Proofs.Text.Separators

/-!
# Origins and their texts

Two addresses have one origin just if they are one IPv4 address, mapped or not, or if both
are other IPv6 addresses and agree in their upper 64 bits. The text of an origin tells it
from all others: in that of a network, the zeros from some group on are written as `::`, and
what stands before them gives the groups that are left.

    a.origin = b.origin just if a.SharesOrigin b        (origin_eq_iff)
    o.write = o'.write only if o = o'                   (Origin.write_inj)
-/

namespace Turnstile

open Text

/-! ## Addresses -/

namespace Address

/-- The IPv4 address that this one is, or that is mapped into it. -/
def ipv4? : Address → Option Ipv4
  | .v4 ip => some ip
  | .v6 ip => ip.mapped?

/-- Whether two addresses are to be counted as one. -/
inductive SharesOrigin : Address → Address → Prop
  | host {a b : Address} (ip : Ipv4) : a.ipv4? = some ip → b.ipv4? = some ip → SharesOrigin a b
  | network {ip ip' : Ipv6} : ip.mapped? = none → ip'.mapped? = none → ip.upper = ip'.upper →
      SharesOrigin (.v6 ip) (.v6 ip')

theorem origin_of_ipv4? {a : Address} {ip : Ipv4} (h : a.ipv4? = some ip) :
    a.origin = .host ip := by
  cases a with
  | v4 ip' => exact congrArg Origin.host (Option.some.inj h)
  | v6 ip' =>
    have hmapped : ip'.mapped? = some ip := h
    rw [origin, hmapped]

theorem origin_v6 {ip : Ipv6} (h : ip.mapped? = none) :
    (Address.v6 ip).origin = .network ip.upper := by
  rw [origin, h]

theorem ipv4?_eq_none {a : Address} (h : a.ipv4? = none) :
    ∃ ip, a = .v6 ip ∧ ip.mapped? = none := by
  cases a with
  | v4 ip => cases h
  | v6 ip => exact ⟨ip, rfl, h⟩

theorem origin_eq_iff (a b : Address) : a.origin = b.origin ↔ a.SharesOrigin b := by
  constructor
  · intro h
    cases ha : a.ipv4? with
    | some ip =>
      rw [origin_of_ipv4? ha] at h
      cases hb : b.ipv4? with
      | some ip' =>
        rw [origin_of_ipv4? hb] at h
        cases h
        exact .host ip ha hb
      | none =>
        obtain ⟨ip', rfl, hb⟩ := ipv4?_eq_none hb
        rw [origin_v6 hb] at h
        cases h
    | none =>
      obtain ⟨ip, rfl, ha⟩ := ipv4?_eq_none ha
      rw [origin_v6 ha] at h
      cases hb : b.ipv4? with
      | some ip' =>
        rw [origin_of_ipv4? hb] at h
        cases h
      | none =>
        obtain ⟨ip', rfl, hb⟩ := ipv4?_eq_none hb
        rw [origin_v6 hb] at h
        exact .network ha hb (Origin.network.inj h)
  · intro h
    cases h with
    | host ip ha hb => rw [origin_of_ipv4? ha, origin_of_ipv4? hb]
    | network ha hb hupper => rw [origin_v6 ha, origin_v6 hb, hupper]

end Address

/-! ## Texts of IPv4 addresses -/

namespace Ipv4

theorem write_inj {ip ip' : Ipv4} (h : ip.write = ip'.write) : ip = ip' := by
  have hdot : ∀ n, '.' ∉ Decimal.digits n := Decimal.not_mem_digits rfl
  have hoctet : ∀ {m n : UInt8}, Decimal.digits m.toNat = Decimal.digits n.toNat → m = n :=
    fun h => UInt8.toNat_inj.1 (Decimal.digits_inj h)
  obtain ⟨a, b, c, d⟩ := ip
  obtain ⟨a', b', c', d'⟩ := ip'
  simp only [write, List.append_assoc, List.cons_append] at h
  obtain ⟨ha, h⟩ := first_separator (hdot _) (hdot _) h
  obtain ⟨hb, h⟩ := first_separator (hdot _) (hdot _) h
  obtain ⟨hc, hd⟩ := first_separator (hdot _) (hdot _) h
  rw [hoctet ha, hoctet hb, hoctet hc, hoctet hd]

theorem not_mem_write {c : Char} (hdigit : c.isDigit = false) (hdot : c ≠ '.') (ip : Ipv4) :
    c ∉ ip.write := by
  simp [write, Decimal.not_mem_digits hdigit, hdot]

end Ipv4

/-! ## Texts of networks -/

namespace Ipv6

theorem writeGroups_cons (g : UInt16) (gs : List UInt16) :
    writeGroups (g :: gs) =
      Hex.digits g.toNat ++ if gs = [] then [] else ':' :: writeGroups gs := by
  cases gs with
  | nil => simp [writeGroups]
  | cons h r => simp [writeGroups]

theorem writeGroups_inj {gs hs : List UInt16} (h : writeGroups gs = writeGroups hs) :
    gs = hs := by
  have hcolon : ∀ n, ':' ∉ Hex.digits n := Hex.not_mem_digits rfl
  have hgroup : ∀ {m n : UInt16}, Hex.digits m.toNat = Hex.digits n.toNat → m = n :=
    fun h => UInt16.toNat_inj.1 (Hex.digits_inj h)
  induction gs generalizing hs with
  | nil =>
    cases hs with
    | nil => rfl
    | cons k ks => simp [writeGroups_cons, writeGroups, Hex.digits_ne_nil] at h
  | cons g gs ih =>
    cases hs with
    | nil => simp [writeGroups_cons, writeGroups, Hex.digits_ne_nil] at h
    | cons k ks =>
      rw [writeGroups_cons, writeGroups_cons] at h
      -- a colon comes after the first group, or else the text ends there
      by_cases hgs : gs = [] <;> by_cases hks : ks = [] <;>
        simp only [hgs, hks, if_true, if_false, List.append_nil] at h
      · rw [hgroup h, hgs, hks]
      · exact absurd (h ▸ List.mem_append_right _ List.mem_cons_self) (hcolon g.toNat)
      · exact absurd (h ▸ List.mem_append_right _ List.mem_cons_self) (hcolon k.toNat)
      · obtain ⟨hfirst, hrest⟩ := first_separator (hcolon _) (hcolon _) h
        rw [hgroup hfirst, ih hrest]

theorem not_mem_writeGroups {c : Char} (hdigit : Hex.value? c = none) (hcolon : c ≠ ':')
    (gs : List UInt16) : c ∉ writeGroups gs := by
  induction gs with
  | nil => exact List.not_mem_nil
  | cons g gs ih =>
    rw [writeGroups_cons]
    split
    · simpa using Hex.not_mem_digits hdigit g.toNat
    · simpa [hcolon, ih] using Hex.not_mem_digits hdigit g.toNat

theorem zeroRun_cons (g : UInt16) (gs : List UInt16) :
    zeroRun (g :: gs) = if g = 0 then zeroRun gs + 1 else 0 := by
  unfold zeroRun
  by_cases hg : g = 0
  · simp [hg]
  · simp [hg]

/-- No run that ends before the last four groups is as long as the one they are in. -/
theorem longestRun_network (a b c d : UInt16) :
    longestRun [a, b, c, d, 0, 0, 0, 0] =
      if d ≠ 0 then (4, 4) else if c ≠ 0 then (3, 5) else if b ≠ 0 then (2, 6)
      else if a ≠ 0 then (1, 7) else (0, 8) := by
  have hnil : zeroRun [] = 0 := rfl
  by_cases ha : a = 0 <;> by_cases hb : b = 0 <;> by_cases hc : c = 0 <;> by_cases hd : d = 0 <;>
    simp [longestRun, List.range, List.range.loop, zeroRun_cons, hnil, ha, hb, hc, hd]

/-- The text of a network tells its groups up to the last one that is not zero. -/
theorem writeCompressed_network (upper : Vector UInt16 4) :
    ∃ front, upper.toList = front ++ List.replicate (4 - front.length) 0 ∧
      writeCompressed (upper.toList ++ [0, 0, 0, 0]) = writeGroups front ++ [':', ':'] := by
  obtain ⟨⟨gs⟩, hlength⟩ := upper
  match gs, hlength with
  | [a, b, c, d], _ =>
    show ∃ front, [a, b, c, d] = _ ∧ writeCompressed [a, b, c, d, 0, 0, 0, 0] = _
    rw [writeCompressed, longestRun_network]
    by_cases hd : d = 0
    · by_cases hc : c = 0
      · by_cases hb : b = 0
        · by_cases ha : a = 0
          · exact ⟨[], by simp [ha, hb, hc, hd, writeGroups]⟩
          · exact ⟨[a], by simp [ha, hb, hc, hd, writeGroups]⟩
        · exact ⟨[a, b], by simp [hb, hc, hd, writeGroups]⟩
      · exact ⟨[a, b, c], by simp [hc, hd, writeGroups]⟩
    · exact ⟨[a, b, c, d], by simp [hd, writeGroups]⟩

end Ipv6

/-! ## Texts of origins -/

namespace Origin

@[simp] theorem toList_text (o : Origin) : o.text.toList = o.write := String.toList_ofList

theorem write_network_inj {upper upper' : Vector UInt16 4}
    (h : (Origin.network upper).write = (Origin.network upper').write) : upper = upper' := by
  obtain ⟨front, hfront, hwrite⟩ := Ipv6.writeCompressed_network upper
  obtain ⟨front', hfront', hwrite'⟩ := Ipv6.writeCompressed_network upper'
  rw [write, write, hwrite, hwrite'] at h
  have hgroups := List.append_cancel_right (List.append_cancel_right h)
  rw [Ipv6.writeGroups_inj hgroups] at hfront
  exact Vector.toList_inj.1 (hfront.trans hfront'.symm)

theorem slash_mem_network (upper : Vector UInt16 4) : '/' ∈ (Origin.network upper).write :=
  List.mem_append_right _ List.mem_cons_self

theorem slash_not_mem_host (ip : Ipv4) : '/' ∉ (Origin.host ip).write :=
  ip.not_mem_write rfl (by decide)

/-- Different origins have different texts. -/
theorem write_inj {o o' : Origin} (h : o.write = o'.write) : o = o' := by
  cases o with
  | host ip =>
    cases o' with
    | host ip' => rw [Ipv4.write_inj h]
    | network upper' => exact absurd (h ▸ slash_mem_network upper') (slash_not_mem_host ip)
  | network upper =>
    cases o' with
    | host ip' => exact absurd (h ▸ slash_mem_network upper) (slash_not_mem_host ip')
    | network upper' => rw [write_network_inj h]

theorem text_inj {o o' : Origin} (h : o.text = o'.text) : o = o' :=
  write_inj (by rw [← o.toList_text, h, o'.toList_text])

/-- Origins are written with digits, dots, colons and slashes. -/
theorem not_mem_write {c : Char} (hdigit : Hex.value? c = none) (hdecimal : c.isDigit = false)
    (hmarks : c ∉ ['.', ':', '/']) (o : Origin) : c ∉ o.write := by
  simp only [List.mem_cons, List.not_mem_nil, or_false, not_or] at hmarks
  obtain ⟨hdot, hcolon, hslash⟩ := hmarks
  cases o with
  | host ip => exact ip.not_mem_write hdecimal hdot
  | network upper =>
    obtain ⟨front, -, hwrite⟩ := Ipv6.writeCompressed_network upper
    have hdigits : c ≠ '6' ∧ c ≠ '4' := by
      refine ⟨?_, ?_⟩ <;> rintro rfl <;> cases hdecimal
    rw [write, hwrite]
    simp [Ipv6.not_mem_writeGroups hdigit hcolon, hcolon, hslash, hdigits]

end Origin

end Turnstile
