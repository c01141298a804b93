import Turnstile.Proofs.Json.RoundTrip
import Turnstile.Server.Json

/-!
# Records in a text

The records of a server are written as JSON and read back as they were. What else may stand
in a text does not matter: the order of the fields, fields of other names, bits of a mask that
have no name. A mask is the same whether it is read from a text or from a column.

    record? names (.obj fields) is the same after any rearrangement      (record?_rearrange)
    k.ofJson? (k.toJson x) = some x                                      (ofJson?_toJson)
    Rearranged k j j' → k.ofJson? j' = k.ofJson? j                       (Rearranged.ofJson?_eq)
    each record reads back, whatever the order of its fields             (records_round_trip)
-/

namespace Turnstile

open Turnstile.Text

/-! ## Fields -/

namespace Json

variable {fields fields' : List (String × Json)} {name : String}

theorem once?_of_mem (hnodup : (fields.map Prod.fst).Nodup) {j : Json} (h : (name, j) ∈ fields) :
    once? name fields = some j := by
  have hfilter : fields.filter (fun f => f.1 == name) = [(name, j)] := by
    induction fields with
    | nil => cases h
    | cons f fields ih =>
      obtain ⟨hnot, hnodup⟩ := List.nodup_cons.1 hnodup
      rcases List.mem_cons.1 h with rfl | h
      · have hnone : fields.filter (fun f => f.1 == name) = [] := by
          refine List.filter_eq_nil_iff.2 fun f hf hname => hnot ?_
          exact List.mem_map.2 ⟨f, hf, beq_iff_eq.1 hname⟩
        rw [List.filter_cons, if_pos (beq_self_eq_true name), hnone]
      · have hne : ¬ (f.1 == name) = true := by
          intro hname
          refine hnot (List.mem_map.2 ⟨(name, j), h, (beq_iff_eq.1 hname).symm⟩)
        rw [List.filter_cons, if_neg hne, ih hnodup h]
  rw [once?, hfilter]

theorem once?_perm (h : fields'.Perm fields) : once? name fields' = once? name fields := by
  have hperm := h.filter fun f => f.1 == name
  rw [once?, once?]
  generalize fields'.filter (fun f => f.1 == name) = l at hperm
  generalize fields.filter (fun f => f.1 == name) = l' at hperm
  have hlength := hperm.length_eq
  match l, l', hlength, hperm with
  | [], [], _, _ => rfl
  | [f], [g], _, hperm => rw [List.singleton_perm_singleton.1 hperm]
  | _ :: _ :: _, _ :: _ :: _, _, _ => rfl

theorem once?_append {extra : List (String × Json)} (h : ∀ f ∈ extra, f.1 ≠ name) :
    once? name (fields ++ extra) = once? name fields := by
  have hnone : extra.filter (fun f => f.1 == name) = [] :=
    List.filter_eq_nil_iff.2 fun f hf hname => h f hf (beq_iff_eq.1 hname)
  rw [once?, once?, List.filter_append, hnone, List.append_nil]

theorem mapM_congr {α β : Type} {l : List α} {f g : α → Option β} (h : ∀ a ∈ l, f a = g a) :
    l.mapM f = l.mapM g := by
  induction l with
  | nil => rfl
  | cons a l ih =>
    rw [List.mapM_cons, List.mapM_cons, h a List.mem_cons_self,
      ih fun b hb => h b (List.mem_cons_of_mem _ hb)]

/-- Neither the order of the fields matters, nor what fields of other names there are. -/
theorem record?_rearrange {names : List String} {extra : List (String × Json)}
    (hextra : ∀ f ∈ extra, f.1 ∉ names) (h : fields'.Perm (fields ++ extra)) :
    record? names (.obj fields') = record? names (.obj fields) := by
  refine mapM_congr fun name hname => ?_
  rw [once?_perm h, once?_append fun f hf hf' => hextra f hf (hf' ▸ hname)]

/-- A record is found in the object of its fields. -/
theorem record?_fields (h : (fields.map Prod.fst).Nodup) :
    record? (fields.map Prod.fst) (.obj fields) = some (fields.map Prod.snd) := by
  have hpart : ∀ part : List (String × Json), (∀ f ∈ part, f ∈ fields) →
      (part.map Prod.fst).mapM (fun name => once? name fields) = some (part.map Prod.snd) := by
    intro part hpart
    induction part with
    | nil => rfl
    | cons f part ih =>
      rw [List.map_cons, List.mapM_cons, once?_of_mem h (hpart f List.mem_cons_self),
        ih fun g hg => hpart g (List.mem_cons_of_mem _ hg)]
      rfl
  exact hpart fields fun f hf => hf

end Json

/-! ## Kinds of records -/

/-- What is read from a text. A mask is none but a part of some. -/
inductive RecordKind where
  | mask
  | server
  | role
  | member
  | channel
  | target
  | override

namespace RecordKind

abbrev Value : RecordKind → Type
  | .mask => Mask
  | .server => Server
  | .role => Role
  | .member => Member
  | .channel => Channel
  | .target => Target
  | .override => Override

def toJson : (k : RecordKind) → k.Value → Json
  | .mask => Mask.toJson
  | .server => Server.toJson
  | .role => Role.toJson
  | .member => Member.toJson
  | .channel => Channel.toJson
  | .target => Target.toJson
  | .override => Override.toJson

def ofJson? : (k : RecordKind) → Json → Option k.Value
  | .mask => Mask.ofJson?
  | .server => Server.ofJson?
  | .role => Role.ofJson?
  | .member => Member.ofJson?
  | .channel => Channel.ofJson?
  | .target => Target.ofJson?
  | .override => Override.ofJson?

/-- The names of the fields, in their order. -/
def fields : RecordKind → List String
  | .mask => []
  | .server => ["id", "owner_id"]
  | .role => ["id", "server_id", "name", "permissions", "position", "is_default"]
  | .member => ["user_id", "server_id", "roles"]
  | .channel => ["id", "server_id", "slowmode_secs"]
  | .target => ["type", "id"]
  | .override => ["channel_id", "target", "allow", "deny"]

/-- The text of a record. -/
def print (k : RecordKind) (x : k.Value) : String := (k.toJson x).text

/-- The record that a text holds. -/
def read? (k : RecordKind) (t : String) : Option k.Value := (Json.ofText? t).bind k.ofJson?

end RecordKind

/-- The names in an object. -/
def Json.names : Json → List String
  | .obj fields => fields.map Prod.fst
  | _ => []

/-- The same record, its fields in another order and among others. In an override, that may
also be so of the target. -/
inductive Rearranged : RecordKind → Json → Json → Prop
  | fields {k : RecordKind} {fields fields' extra : List (String × Json)} :
      (∀ f ∈ extra, f.1 ∉ k.fields) → fields'.Perm (fields ++ extra) →
      Rearranged k (.obj fields) (.obj fields')
  | target {front back : List (String × Json)} {t t' : Json} : Rearranged .target t t' →
      Rearranged .override (.obj (front ++ ("target", t) :: back))
        (.obj (front ++ ("target", t') :: back))
  | symm {k : RecordKind} {j j' : Json} : Rearranged k j j' → Rearranged k j' j
  | trans {k : RecordKind} {j j' j'' : Json} : Rearranged k j j' → Rearranged k j' j'' →
      Rearranged k j j''

/-! ## Values that read back -/

section
open Json

theorem ofJson?_uuid (u : Uuid) : Uuid.ofJson? u.toJson = some u := by
  rw [Uuid.ofJson?, Uuid.toJson, str?, Option.bind_some, u.ofText?_text]

theorem natBelow?_of_lt {n bound : Nat} (h : n < bound) :
    natBelow? bound (.int n) = some ⟨n, h⟩ := dif_pos h

theorem uint32?_int (n : UInt32) : uint32? (.int n.toNat) = some n := by
  rw [uint32?, natBelow?_of_lt n.toNat_lt]
  rfl

theorem uint64?_int (n : UInt64) : uint64? (.int n.toNat) = some n := by
  rw [uint64?, natBelow?_of_lt n.toNat_lt]
  rfl

theorem int32?_int (n : Int32) : int32? (.ofInt32 n) = some n := by
  show (if _ then some (Int32.ofInt n.toInt) else none) = some n
  rw [if_pos ⟨Int32.le_toInt n, Int32.toInt_le n⟩, Int32.ofInt_toInt]

theorem int64?_int (n : Int64) : int64? (.ofInt64 n) = some n := by
  show (if _ then some (Int64.ofInt n.toInt) else none) = some n
  rw [if_pos ⟨Int64.le_toInt n, Int64.toInt_le n⟩, Int64.ofInt_toInt]

theorem ofJson?_number (n : UInt64) : Mask.ofJson? (.int n.toNat) = some (.ofColumn n.toInt64) := by
  rw [Mask.ofJson?, uint64?_int]
  rfl

theorem ofBits_bits (m : Mask) : Mask.ofBits m.bits = m := by
  obtain ⟨bits, hknown⟩ := m
  simp [Mask.ofBits, hknown]

theorem ofJson?_mask (m : Mask) : Mask.ofJson? m.toJson = some m := by
  have hnumber : m.toJson = .int (UInt64.ofBitVec m.bits).toNat := rfl
  rw [hnumber, ofJson?_number]
  exact congrArg some (ofBits_bits m)

theorem ofColumn_toColumn (m : Mask) : Mask.ofColumn m.toColumn = m := ofBits_bits m

/-- The sign bit is the bit of no permission. -/
theorem toColumn_nonneg (m : Mask) : 0 ≤ m.toColumn := by
  have hsign : m.bits.msb = false := by
    rw [BitVec.msb_eq_getLsbD_last, ← m.bits_known, BitVec.getLsbD_and]
    have hknown : knownBits.getLsbD (64 - 1) = false := by decide
    rw [hknown, Bool.and_false]
  rw [Int64.le_iff_toInt_le]
  show (0 : Int64).toInt ≤ m.bits.toInt
  rw [BitVec.toInt_eq_msb_cond, hsign]
  simp

theorem ofText?_ofNat (n : Nat) : ofText? (Decimal.ofNat n) = some (.int n) := by
  have htext : (Json.int n).text = Decimal.ofNat n := by
    rw [text, write]
    rfl
  rw [← htext]
  exact ofText?_text (.int n)

theorem mapM_uuid (ids : List Uuid) : ids.mapM (Uuid.ofJson? ∘ Uuid.toJson) = some ids := by
  induction ids with
  | nil => rfl
  | cons u ids ih =>
    rw [List.mapM_cons, ih, Function.comp, ofJson?_uuid]
    rfl

end

/-! ## Records that read back -/

theorem RecordKind.nodup_fields (k : RecordKind) : k.fields.Nodup := by
  cases k <;> decide

theorem ofJson?_server (s : Server) : Server.ofJson? s.toJson = some s := by
  have hrecord : s.toJson.record? ["id", "owner_id"] = some [s.id.toJson, s.ownerId.toJson] :=
    Json.record?_fields RecordKind.server.nodup_fields
  rw [Server.ofJson?, hrecord]
  simp [ofJson?_uuid]

theorem ofJson?_role (r : Role) : Role.ofJson? r.toJson = some r := by
  have hrecord : r.toJson.record?
      ["id", "server_id", "name", "permissions", "position", "is_default"] =
        some [r.id.toJson, r.serverId.toJson, .str r.name, r.permissions.toJson,
          .ofInt32 r.position, .bool r.isDefault] :=
    Json.record?_fields RecordKind.role.nodup_fields
  rw [Role.ofJson?, hrecord]
  simp [ofJson?_uuid, ofJson?_mask, int32?_int, Json.str?, Json.bool?]

theorem ofJson?_member (m : Member) : Member.ofJson? m.toJson = some m := by
  have hrecord : m.toJson.record? ["user_id", "server_id", "roles"] =
      some [m.userId.toJson, m.serverId.toJson, .arr (m.roles.map Uuid.toJson)] :=
    Json.record?_fields RecordKind.member.nodup_fields
  rw [Member.ofJson?, hrecord]
  simp [ofJson?_uuid, mapM_uuid, Json.items?]

theorem ofJson?_channel (c : Channel) : Channel.ofJson? c.toJson = some c := by
  have hrecord : c.toJson.record? ["id", "server_id", "slowmode_secs"] =
      some [c.id.toJson, c.serverId.toJson, .ofInt64 c.slowmodeSecs] :=
    Json.record?_fields RecordKind.channel.nodup_fields
  rw [Channel.ofJson?, hrecord]
  simp [ofJson?_uuid, int64?_int]

theorem ofJson?_target (t : Target) : Target.ofJson? t.toJson = some t := by
  cases t with
  | role id =>
    have hrecord : (Target.role id).toJson.record? ["type", "id"] =
        some [.str "role", id.toJson] := Json.record?_fields RecordKind.target.nodup_fields
    rw [Target.ofJson?, hrecord]
    simp [ofJson?_uuid, Target.toJson, Json.items?, Target.kindName?, Target.ofKind?]
  | user id =>
    have hrecord : (Target.user id).toJson.record? ["type", "id"] =
        some [.str "user", id.toJson] := Json.record?_fields RecordKind.target.nodup_fields
    rw [Target.ofJson?, hrecord]
    simp [ofJson?_uuid, Target.toJson, Json.items?, Target.kindName?, Target.ofKind?]

theorem ofJson?_override (o : Override) : Override.ofJson? o.toJson = some o := by
  have hrecord : o.toJson.record? ["channel_id", "target", "allow", "deny"] =
      some [o.channelId.toJson, o.target.toJson, o.allow.toJson, o.deny.toJson] :=
    Json.record?_fields RecordKind.override.nodup_fields
  rw [Override.ofJson?, hrecord]
  simp [ofJson?_uuid, ofJson?_target, ofJson?_mask]

namespace RecordKind

theorem ofJson?_toJson (k : RecordKind) (x : k.Value) : k.ofJson? (k.toJson x) = some x := by
  cases k with
  | mask => exact ofJson?_mask x
  | server => exact ofJson?_server x
  | role => exact ofJson?_role x
  | member => exact ofJson?_member x
  | channel => exact ofJson?_channel x
  | target => exact ofJson?_target x
  | override => exact ofJson?_override x

/-- A record is written with its own fields and no others. -/
theorem names_toJson (k : RecordKind) (x : k.Value) : (k.toJson x).names = k.fields := by
  cases k with
  | target => cases x <;> rfl
  | _ => rfl

theorem plain_toJson (k : RecordKind) (x : k.Value) : (k.toJson x).Plain := by
  have hmask : ∀ m : Mask, m.toJson.Plain := fun m => .int _
  have huuid : ∀ u : Uuid, u.toJson.Plain := fun u => .str _
  have htarget : ∀ t : Target, t.toJson.Plain := by
    intro t
    cases t <;> exact .obj (by simp [huuid, Json.Plain.str])
  cases k with
  | mask => exact hmask x
  | server => exact .obj (by simp [huuid])
  | role =>
    exact .obj (by
      simp [huuid, hmask, Json.Plain.str, Json.Plain.bool, Json.ofInt32, Json.Plain.int])
  | member => exact .obj (by simp [huuid, Json.Plain.arr])
  | channel => exact .obj (by simp [huuid, Json.ofInt64, Json.Plain.int])
  | target => exact htarget x
  | override => exact .obj (by simp [huuid, hmask, htarget])

theorem read?_print (k : RecordKind) (x : k.Value) : k.read? (k.print x) = some x := by
  rw [read?, print, Json.ofText?_text (k.plain_toJson x), Option.bind_some, k.ofJson?_toJson]

end RecordKind

/-! ## Rearranged records -/

namespace Json

variable {front back : List (String × Json)} {name other : String} {j j' : Json}

theorem once?_insert_of_ne (h : other ≠ name) :
    once? name (front ++ (other, j) :: back) = once? name (front ++ back) := by
  have hperm : (front ++ (other, j) :: back).Perm ((front ++ back) ++ [(other, j)]) := by
    rw [← List.singleton_append, List.append_assoc]
    exact List.perm_append_comm.append_left front
  rw [once?_perm hperm, once?_append]
  intro f hf
  rw [List.mem_singleton.1 hf]
  exact h

/-- The value of a field, if there is no other of its name. -/
theorem once?_insert :
    once? name (front ++ (name, j) :: back) =
      if (front ++ back).any (·.1 == name) then none else some j := by
  have hperm : (front ++ (name, j) :: back).Perm ((name, j) :: (front ++ back)) :=
    List.perm_middle
  rw [once?_perm hperm, once?, List.filter_cons, if_pos (beq_self_eq_true name)]
  cases hfilter : (front ++ back).filter (fun f => f.1 == name) with
  | nil =>
    have hnone : ¬ (front ++ back).any (·.1 == name) = true := by
      rw [List.any_eq_true]
      rintro ⟨f, hf, hname⟩
      exact List.filter_eq_nil_iff.1 hfilter f hf hname
    rw [if_neg hnone]
  | cons f rest =>
    have hmem : f ∈ (front ++ back).filter (fun f => f.1 == name) := by
      rw [hfilter]
      exact List.mem_cons_self
    obtain ⟨hf, hname⟩ := List.mem_filter.1 hmem
    rw [if_pos (List.any_eq_true.2 ⟨f, hf, hname⟩)]

end Json

/-- An override is read field by field. -/
theorem Override.ofJson?_obj (fields : List (String × Json)) :
    Override.ofJson? (.obj fields) = (do
      let channel ← Json.once? "channel_id" fields
      let target ← Json.once? "target" fields
      let allow ← Json.once? "allow" fields
      let deny ← Json.once? "deny" fields
      some ⟨← Uuid.ofJson? channel, ← Target.ofJson? target, ← Mask.ofJson? allow,
        ← Mask.ofJson? deny⟩) := by
  rw [Override.ofJson?, Json.record?]
  simp only [List.mapM_cons, List.mapM_nil]
  cases Json.once? "channel_id" fields <;> cases Json.once? "target" fields <;>
    cases Json.once? "allow" fields <;> cases Json.once? "deny" fields <;> rfl

theorem ofJson?_override_target {front back : List (String × Json)} {t t' : Json}
    (h : Target.ofJson? t' = Target.ofJson? t) :
    Override.ofJson? (.obj (front ++ ("target", t') :: back)) =
      Override.ofJson? (.obj (front ++ ("target", t) :: back)) := by
  have hothers : ∀ name, "target" ≠ name → Json.once? name (front ++ ("target", t') :: back) =
      Json.once? name (front ++ ("target", t) :: back) := by
    intro name hname
    rw [Json.once?_insert_of_ne hname, Json.once?_insert_of_ne hname]
  rw [Override.ofJson?_obj, Override.ofJson?_obj, hothers "channel_id" (by decide),
    hothers "allow" (by decide), hothers "deny" (by decide), Json.once?_insert, Json.once?_insert]
  split
  · rfl
  · simp only [Option.bind_eq_bind, Option.bind_some, h]

/-- Records are looked at through their fields alone. -/
theorem RecordKind.ofJson?_obj_congr (k : RecordKind) {fields fields' : List (String × Json)}
    (h : Json.record? k.fields (.obj fields') = Json.record? k.fields (.obj fields)) :
    k.ofJson? (.obj fields') = k.ofJson? (.obj fields) := by
  cases k with
  | mask => rfl
  | _ => exact congrArg (· >>= _) h

theorem Rearranged.ofJson?_eq {k : RecordKind} {j j' : Json} (h : Rearranged k j j') :
    k.ofJson? j' = k.ofJson? j := by
  induction h with
  | fields hextra hperm =>
    exact RecordKind.ofJson?_obj_congr _ (Json.record?_rearrange hextra hperm)
  | target _ ih => exact ofJson?_override_target ih
  | symm _ ih => exact ih.symm
  | trans _ _ ih ih' => exact ih'.trans ih

/-! ## Records and masks in a text -/

/-- **Records survive their texts.** What is printed of a record, or of a mask, reads back as
it was, and is made of the record's own fields; so whatever text a record is read from, it is
the same after it was printed and read once more. Two texts that differ in the order of the
fields, or in fields of other names, hold the same record or both hold none, also where they
differ so within the target of an override; and any such arrangement of a printed record has a
text. A mask is the same from a text and from a column, which is never negative and keeps it. -/
theorem records_round_trip :
    (∀ (k : RecordKind) (x : k.Value), k.read? (k.print x) = some x ∧
      (k.toJson x).names = k.fields) ∧
    (∀ (k : RecordKind) (t : String),
      (k.read? t).bind (fun x => k.read? (k.print x)) = k.read? t) ∧
    (∀ (k : RecordKind) (t t' : String) (j j' : Json), Json.ofText? t = some j →
      Json.ofText? t' = some j' → Rearranged k j j' → k.read? t' = k.read? t) ∧
    (∀ (k : RecordKind) (x : k.Value) (j : Json), Rearranged k (k.toJson x) j → j.Plain →
      k.read? j.text = some x) ∧
    (∀ n : UInt64, RecordKind.mask.read? (Decimal.ofNat n.toNat) = some (.ofColumn n.toInt64)) ∧
    ∀ m : Mask, 0 ≤ m.toColumn ∧ .ofColumn m.toColumn = m := by
  refine ⟨fun k x => ⟨k.read?_print x, k.names_toJson x⟩, fun k t => ?_, ?_, ?_, fun n => ?_,
    fun m => ⟨toColumn_nonneg m, ofColumn_toColumn m⟩⟩
  · cases k.read? t with
    | none => rfl
    | some x => exact k.read?_print x
  · intro k t t' j j' hj hj' hsame
    rw [RecordKind.read?, RecordKind.read?, hj, hj', Option.bind_some, Option.bind_some,
      hsame.ofJson?_eq]
  · intro k x j hsame hplain
    rw [RecordKind.read?, Json.ofText?_text hplain, Option.bind_some, hsame.ofJson?_eq,
      k.ofJson?_toJson]
  · rw [RecordKind.read?, ofText?_ofNat, Option.bind_some]
    exact ofJson?_number n

/-! ## A channel with a note -/

def sampleChannel : Channel := ⟨⟨1⟩, ⟨2⟩, -5⟩

/-- The channel with its fields the other way round, and a note. -/
def sampleFields : List (String × Json) :=
  [("note", .str "a \"b\"\n"), ("slowmode_secs", .int (-5)),
   ("server_id", .str "00000000-0000-0000-0000-000000000002"),
   ("id", .str "00000000-0000-0000-0000-000000000001")]

theorem rearranged_sampleFields :
    Rearranged .channel sampleChannel.toJson (.obj sampleFields) := by
  have hid : (⟨1⟩ : Uuid).text = "00000000-0000-0000-0000-000000000001" := by decide +kernel
  have hserver : (⟨2⟩ : Uuid).text = "00000000-0000-0000-0000-000000000002" := by decide +kernel
  have hfields : sampleChannel.toJson =
      .obj [("id", .str "00000000-0000-0000-0000-000000000001"),
        ("server_id", .str "00000000-0000-0000-0000-000000000002"),
        ("slowmode_secs", .int (-5))] := by
    rw [← hid, ← hserver]
    rfl
  have hnote : ∀ f ∈ [("note", Json.str "a \"b\"\n")], f.1 ∉ RecordKind.channel.fields := by
    simp [RecordKind.fields]
  rw [hfields]
  exact .fields hnote (List.reverse_perm sampleFields).symm

theorem sampleChannel_round_trip :
    RecordKind.channel.read? (RecordKind.channel.print sampleChannel) = some sampleChannel ∧
    RecordKind.channel.read? (Json.obj sampleFields).text = some sampleChannel ∧
    RecordKind.mask.read? (Decimal.ofNat 0xFFFFFFFFFFFFFFFF) = some .all := by
  have hplain : (Json.obj sampleFields).Plain :=
    .obj (by simp [sampleFields, Json.Plain.str, Json.Plain.int])
  have hprinted : Json.ofText? (RecordKind.channel.print sampleChannel) =
      some sampleChannel.toJson := Json.ofText?_text (RecordKind.channel.plain_toJson _)
  obtain ⟨hprint, -, hsame, -, hmask, -⟩ := records_round_trip
  refine ⟨(hprint .channel sampleChannel).1, ?_, hmask 0xFFFFFFFFFFFFFFFF⟩
  rw [hsame .channel _ _ _ _ hprinted (Json.ofText?_text hplain) rearranged_sampleFields]
  exact (hprint .channel sampleChannel).1

end Turnstile
