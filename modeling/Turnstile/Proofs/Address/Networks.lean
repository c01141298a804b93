import Mathlib.Data.Nat.Digits.Defs
import Turnstile.Proofs.Address.Origins

/-!
# Addresses as numbers

An IPv4 address is a number of 32 bits and an IPv6 address one of 128 bits. Of these numbers
it is said here which addresses count for one origin, and what an origin is written as: the
IPv4 addresses mapped into IPv6 are those whose upper 96 bits are `ffff`, and a network is the
upper 64 bits of its addresses. The block `::/64` holds addresses of both kinds.

    ip.mapped? is there just if the upper 96 bits are ffff           (Ipv6.map_value_mapped?)
    a.SharesOrigin b just if a.SameHost b or a.SameNetwork b         (Address.sharesOrigin_iff)
    a network is written as its first address                        (Address.write_origin_v6)
    the same of the texts of a.origin and b.origin                   (Address.text_origin_eq_iff)
-/

namespace Turnstile

/-! ## Values -/

/-- The number that an address is, its octets being the digits. -/
def Ipv4.value (ip : Ipv4) : Nat :=
  Nat.ofDigits 256 [ip.d.toNat, ip.c.toNat, ip.b.toNat, ip.a.toNat]

/-- The number that groups are the digits of. -/
def Ipv6.groupsValue (gs : List UInt16) : Nat := Nat.ofDigits 65536 (gs.reverse.map UInt16.toNat)

def Ipv6.value (ip : Ipv6) : Nat := groupsValue ip.groups.toList

/-- The mask that leaves the upper 64 bits of an address. -/
def Ipv6.networkMask : BitVec 128 := BitVec.allOnes 128 <<< 64

namespace Address

/-- The IPv4 address that is meant, as a number. One that is mapped stands in the lower 32 bits. -/
def ipv4Value? : Address → Option Nat
  | .v4 ip => some ip.value
  | .v6 ip => if ip.value / UInt32.size = 0xFFFF then some (ip.value % UInt32.size) else none

/-- The upper 64 bits of an address that is no IPv4 address. -/
def network? : Address → Option Nat
  | .v4 _ => none
  | .v6 ip => if ip.value / UInt32.size = 0xFFFF then none else some (ip.value / UInt64.size)

/-- Both addresses are one IPv4 address. -/
def SameHost (a b : Address) : Prop := ∃ v, a.ipv4Value? = some v ∧ b.ipv4Value? = some v

/-- Neither is an IPv4 address, and both are in one /64 network. -/
def SameNetwork (a b : Address) : Prop := ∃ n, a.network? = some n ∧ b.network? = some n

end Address

/-! ## Digits -/

namespace Ipv4

theorem value_inj {ip ip' : Ipv4} (h : ip.value = ip'.value) : ip = ip' := by
  have hlt : ∀ ip : Ipv4, ∀ n ∈ [ip.d.toNat, ip.c.toNat, ip.b.toNat, ip.a.toNat], n < 256 := by
    intro ip n hn
    simp only [List.mem_cons, List.not_mem_nil, or_false] at hn
    rcases hn with rfl | rfl | rfl | rfl <;> exact UInt8.toNat_lt _
  have hdigits : [ip.d.toNat, ip.c.toNat, ip.b.toNat, ip.a.toNat] =
      [ip'.d.toNat, ip'.c.toNat, ip'.b.toNat, ip'.a.toNat] :=
    Nat.ofDigits_inj_of_len_eq (by decide) rfl (hlt ip) (hlt ip') h
  simp only [List.cons.injEq, UInt8.toNat_inj, and_true] at hdigits
  obtain ⟨hd, hc, hb, ha⟩ := hdigits
  cases ip
  cases ip'
  rw [mk.injEq]
  exact ⟨ha, hb, hc, hd⟩

end Ipv4

namespace Ipv6

theorem toNat_lt_of_mem (gs : List UInt16) : ∀ n ∈ gs.reverse.map UInt16.toNat, n < 65536 := by
  intro n hn
  obtain ⟨g, -, rfl⟩ := List.mem_map.1 hn
  exact g.toNat_lt

theorem groupsValue_lt (gs : List UInt16) : groupsValue gs < 65536 ^ gs.length := by
  have h := Nat.ofDigits_lt_base_pow_length (by decide : 1 < 65536) (toNat_lt_of_mem gs)
  rwa [List.length_map, List.length_reverse] at h

theorem groupsValue_inj {gs hs : List UInt16} (hlength : gs.length = hs.length)
    (h : groupsValue gs = groupsValue hs) : gs = hs := by
  have hdigits := Nat.ofDigits_inj_of_len_eq (by decide) (by simpa using hlength)
    (toNat_lt_of_mem gs) (toNat_lt_of_mem hs) h
  exact List.reverse_inj.1 ((List.map_inj_right fun _ _ => UInt16.toNat_inj.1).1 hdigits)

theorem groupsValue_append (gs hs : List UInt16) :
    groupsValue (gs ++ hs) = groupsValue hs + 65536 ^ hs.length * groupsValue gs := by
  rw [groupsValue, List.reverse_append, List.map_append, Nat.ofDigits_append, List.length_map,
    List.length_reverse, groupsValue, groupsValue]

theorem groupsValue_append_div (gs : List UInt16) {hs : List UInt16} {n : Nat}
    (hn : n = 65536 ^ hs.length) : groupsValue (gs ++ hs) / n = groupsValue gs := by
  rw [hn, groupsValue_append, Nat.add_mul_div_left _ _ (by positivity),
    Nat.div_eq_of_lt (groupsValue_lt hs), Nat.zero_add]

theorem groupsValue_append_mod (gs : List UInt16) {hs : List UInt16} {n : Nat}
    (hn : n = 65536 ^ hs.length) : groupsValue (gs ++ hs) % n = groupsValue hs := by
  rw [hn, groupsValue_append, Nat.add_mul_mod_self_left, Nat.mod_eq_of_lt (groupsValue_lt hs)]

theorem uint32Size_eq : UInt32.size = 65536 ^ 2 := by norm_num [UInt32.size]

theorem uint64Size_eq : UInt64.size = 65536 ^ 4 := by norm_num [UInt64.size]

/-! ## Parts of an address -/

theorem exists_groups (ip : Ipv6) : ∃ a b c d e f g h, ip = ⟨#v[a, b, c, d, e, f, g, h]⟩ := by
  obtain ⟨⟨⟨gs⟩, hlength⟩⟩ := ip
  match gs, hlength with
  | [a, b, c, d, e, f, g, h], _ => exact ⟨a, b, c, d, e, f, g, h, rfl⟩

theorem value_upper (ip : Ipv6) : ip.value / UInt64.size = groupsValue ip.upper.toList := by
  obtain ⟨a, b, c, d, e, f, g, h, rfl⟩ := ip.exists_groups
  exact groupsValue_append_div [a, b, c, d] uint64Size_eq

theorem upper_eq_iff {ip ip' : Ipv6} :
    ip.upper = ip'.upper ↔ ip.value / UInt64.size = ip'.value / UInt64.size := by
  rw [ip.value_upper, ip'.value_upper]
  have hlength : ip.upper.toList.length = ip'.upper.toList.length := by simp
  exact ⟨fun h => by rw [h], fun h => Vector.toList_inj.1 (groupsValue_inj hlength h)⟩

/-- The value of an IPv4 address is that of the two groups it is mapped to. -/
theorem value_ofGroups (hi lo : UInt16) : (Ipv4.ofGroups hi lo).value = groupsValue [hi, lo] := by
  have hhi := hi.toNat_lt
  have hlo := lo.toNat_lt
  have hshift : (8 : UInt16).toNat % 16 = 8 := rfl
  simp only [Ipv4.value, Ipv4.ofGroups, groupsValue, UInt16.toNat_toUInt8, UInt16.toNat_shiftRight,
    hshift, Nat.shiftRight_eq_div_pow, List.reverse_cons, List.reverse_nil, List.nil_append,
    List.cons_append, List.map_cons, List.map_nil, Nat.ofDigits_cons, Nat.ofDigits_nil]
  omega

/-- The mapped addresses are those of the upper 96 bits `ffff`, and they have the lower 32 bits
of the address that is mapped. -/
theorem map_value_mapped? (ip : Ipv6) :
    ip.mapped?.map Ipv4.value =
      if ip.value / UInt32.size = 0xFFFF then some (ip.value % UInt32.size) else none := by
  obtain ⟨a, b, c, d, e, f, g, h, rfl⟩ := ip.exists_groups
  have hupper : value ⟨#v[a, b, c, d, e, f, g, h]⟩ / UInt32.size = groupsValue [a, b, c, d, e, f] :=
    groupsValue_append_div [a, b, c, d, e, f] uint32Size_eq
  have hlower : value ⟨#v[a, b, c, d, e, f, g, h]⟩ % UInt32.size = (Ipv4.ofGroups g h).value :=
    (groupsValue_append_mod [a, b, c, d, e, f] uint32Size_eq).trans (value_ofGroups g h).symm
  have hmarker : groupsValue [0, 0, 0, 0, 0, 0xFFFF] = 0xFFFF := rfl
  have hiff : [a, b, c, d, e, f] = [0, 0, 0, 0, 0, 0xFFFF] ↔
      groupsValue [a, b, c, d, e, f] = 0xFFFF :=
    ⟨fun h => h ▸ hmarker, fun h => groupsValue_inj rfl (h.trans hmarker.symm)⟩
  have hmapped : mapped? ⟨#v[a, b, c, d, e, f, g, h]⟩ =
      if groupsValue [a, b, c, d, e, f] = 0xFFFF then some (Ipv4.ofGroups g h) else none :=
    if_congr hiff rfl rfl
  rw [hupper, hlower, hmapped]
  split <;> rfl

theorem mapped?_eq_none_iff {ip : Ipv6} :
    ip.mapped? = none ↔ ip.value / UInt32.size ≠ 0xFFFF := by
  rw [← Option.map_eq_none_iff (f := Ipv4.value), ip.map_value_mapped?]
  simp

/-! ## The first address of a network -/

theorem value_lt (ip : Ipv6) : ip.value < 2 ^ 128 := by
  have h := groupsValue_lt ip.groups.toList
  rw [Vector.length_toList] at h
  exact h.trans_eq (by norm_num)

theorem and_allOnes_shiftLeft {w : Nat} (v : BitVec w) (n : Nat) :
    v &&& BitVec.allOnes w <<< n = v >>> n <<< n := by
  ext i hi
  -- the bits below `n` are taken away on both sides
  by_cases h : i < n
  · simp [h]
  · have hback : n + (i - n) = i := by omega
    have hwidth : i - n < w := by omega
    simp [h, hback, hwidth, hi, ← BitVec.getLsbD_eq_getElem]

theorem toNat_and_networkMask (v : BitVec 128) :
    (v &&& networkMask).toNat = v.toNat / UInt64.size * UInt64.size := by
  have hsmall : v.toNat / UInt64.size * UInt64.size < 2 ^ 128 :=
    lt_of_le_of_lt (Nat.div_mul_le_self _ _) v.isLt
  rw [networkMask, and_allOnes_shiftLeft, BitVec.toNat_shiftLeft, BitVec.toNat_ushiftRight,
    Nat.shiftLeft_eq, Nat.shiftRight_eq_div_pow]
  exact Nat.mod_eq_of_lt hsmall

theorem groups_of_value_mod {ip : Ipv6} (hzero : ip.value % UInt64.size = 0) :
    ip.groups.toList = ip.upper.toList ++ [0, 0, 0, 0] := by
  obtain ⟨a, b, c, d, e, f, g, h, rfl⟩ := ip.exists_groups
  have hlower : groupsValue [e, f, g, h] = groupsValue [0, 0, 0, 0] :=
    (groupsValue_append_mod [a, b, c, d] uint64Size_eq).symm.trans hzero
  exact congrArg ([a, b, c, d] ++ ·) (groupsValue_inj rfl hlower)

end Ipv6

/-! ## Origins by number -/

namespace Address

theorem ipv4Value?_eq (a : Address) : a.ipv4Value? = a.ipv4?.map Ipv4.value := by
  cases a with
  | v4 ip => rfl
  | v6 ip => exact ip.map_value_mapped?.symm

theorem network?_eq_some_iff {a : Address} {n : Nat} :
    a.network? = some n ↔
      ∃ ip, a = .v6 ip ∧ ip.mapped? = none ∧ ip.value / UInt64.size = n := by
  cases a with
  | v4 ip => simp [network?]
  | v6 ip =>
    simp only [network?, v6.injEq, exists_eq_left', ip.mapped?_eq_none_iff]
    split <;> simp [*]

theorem sharesOrigin_iff (a b : Address) :
    a.SharesOrigin b ↔ a.SameHost b ∨ a.SameNetwork b := by
  constructor
  · intro h
    cases h with
    | host ip ha hb =>
      exact .inl ⟨ip.value, by rw [ipv4Value?_eq, ha]; rfl, by rw [ipv4Value?_eq, hb]; rfl⟩
    | @network ip ip' hip hip' hupper =>
      exact .inr ⟨_, network?_eq_some_iff.2 ⟨ip, rfl, hip, rfl⟩,
        network?_eq_some_iff.2 ⟨ip', rfl, hip', (Ipv6.upper_eq_iff.1 hupper).symm⟩⟩
  · rintro (⟨v, ha, hb⟩ | ⟨n, ha, hb⟩)
    · rw [ipv4Value?_eq, Option.map_eq_some_iff] at ha hb
      obtain ⟨ip, ha, hvalue⟩ := ha
      obtain ⟨ip', hb, hvalue'⟩ := hb
      obtain rfl := Ipv4.value_inj (hvalue.trans hvalue'.symm)
      exact .host ip ha hb
    · obtain ⟨ip, rfl, hip, hvalue⟩ := network?_eq_some_iff.1 ha
      obtain ⟨ip', rfl, hip', hvalue'⟩ := network?_eq_some_iff.1 hb
      exact .network hip hip' (Ipv6.upper_eq_iff.2 (hvalue.trans hvalue'.symm))

/-- Every address is an IPv4 address or in a network, and none is both. -/
theorem network?_isNone (a : Address) : a.network?.isNone = a.ipv4Value?.isSome := by
  cases a with
  | v4 ip => rfl
  | v6 ip =>
    simp only [network?, ipv4Value?]
    split <;> rfl

/-- The text of a network is that of its first address, which the mask leaves. -/
theorem write_origin_v6 {ip first : Ipv6} (hmapped : ip.mapped? = none)
    (hfirst : first.value = (BitVec.ofNat 128 ip.value &&& Ipv6.networkMask).toNat) :
    (Address.v6 ip).origin.write =
      Ipv6.writeCompressed first.groups.toList ++ ['/', '6', '4'] := by
  rw [Ipv6.toNat_and_networkMask, BitVec.toNat_ofNat, Nat.mod_eq_of_lt ip.value_lt] at hfirst
  have hupper : first.upper = ip.upper := by
    rw [Ipv6.upper_eq_iff, hfirst, Nat.mul_div_cancel _ (by decide)]
  have hzero : first.value % UInt64.size = 0 := by rw [hfirst, Nat.mul_mod_left]
  rw [origin_v6 hmapped, Origin.write, ← hupper, Ipv6.groups_of_value_mod hzero]

/-- **Who counts as one.** Two addresses are counted under one text just if they are one IPv4
address, in either form, or other addresses of one network. No text stands for an IPv4 address
and a network, and different networks have different texts. -/
theorem text_origin_eq_iff (a b : Address) :
    (a.origin.text = b.origin.text ↔ a.SameHost b ∨ a.SameNetwork b) ∧
    (∀ v n, a.ipv4Value? = some v → b.network? = some n → a.origin.text ≠ b.origin.text) ∧
    (∀ m n, a.network? = some m → b.network? = some n →
      (a.origin.text = b.origin.text ↔ m = n)) := by
  have hnumbers : a.origin.text = b.origin.text ↔ a.SameHost b ∨ a.SameNetwork b := by
    rw [← sharesOrigin_iff, ← origin_eq_iff]
    exact ⟨Origin.text_inj, congrArg Origin.text⟩
  have hnetwork : ∀ {n}, b.network? = some n → ¬ a.SameHost b := by
    rintro n hb ⟨v, -, hv⟩
    have hkind := b.network?_isNone
    rw [hb, hv] at hkind
    cases hkind
  refine ⟨hnumbers, ?_, ?_⟩
  · intro v n ha hb htext
    have hkind := a.network?_isNone
    obtain ⟨m, hm, -⟩ := (hnumbers.1 htext).resolve_left (hnetwork hb)
    rw [ha, hm] at hkind
    cases hkind
  · intro m n ha hb
    rw [hnumbers, or_iff_right (hnetwork hb)]
    constructor
    · rintro ⟨k, hk, hk'⟩
      exact Option.some.inj (ha.symm.trans (hk.trans (hk'.symm.trans hb)))
    · rintro rfl
      exact ⟨m, ha, hb⟩

/-- `10.0.0.1` is counted with `::ffff:10.0.0.1`, and `::1` with `::2`. The upper 64 bits of
`::ffff:10.0.0.1` are those of `::1`, but the two are counted apart. -/
theorem text_origin_samples :
    (v4 ⟨10, 0, 0, 1⟩).origin.text =
      (v6 ⟨#v[0, 0, 0, 0, 0, 0xFFFF, 0x0A00, 1]⟩).origin.text ∧
    (v6 ⟨#v[0, 0, 0, 0, 0, 0, 0, 1]⟩).origin.text =
      (v6 ⟨#v[0, 0, 0, 0, 0, 0, 0, 2]⟩).origin.text ∧
    (v6 ⟨#v[0, 0, 0, 0, 0, 0xFFFF, 0x0A00, 1]⟩).origin.text ≠
      (v6 ⟨#v[0, 0, 0, 0, 0, 0, 0, 1]⟩).origin.text := by
  refine ⟨(text_origin_eq_iff _ _).1.2 (.inl ⟨167772161, rfl, rfl⟩), ?_, ?_⟩
  · exact ((text_origin_eq_iff _ _).2.2 0 0 rfl rfl).2 rfl
  · exact (text_origin_eq_iff _ _).2.1 167772161 0 rfl rfl

end Address

end Turnstile
