import Turnstile.Permission.Resolution

/-!
# Precedence of overrides

Resolution applies the overrides of a channel one after the other. What comes out is said
here bit by bit, without an order of application: of the overrides that concern the member
and mention a permission, the strongest decides. One for the user outranks any for a role,
one for a held role any for the default role; of held roles the later in the role list wins,
and of overrides with one target the later in the override list.

    p ∈ rolePermissions member roles server ↔ InUnion member roles server p    (mem_rolePermissions)
    Decides … p o → (p ∈ resolve … ↔ p ∈ o.allow)                              (mem_resolve_of_decides)
    no override bears on p → (p ∈ resolve … ↔ InUnion … p)                     (mem_resolve_of_silent)
    some override bears on p → ∃ o, Decides … p o                              (exists_decides)
-/

namespace Turnstile

/-! ## The rule -/

/-- A permission of the default role, the first with the server's identifier, or of a role held. -/
def InUnion (member : Member) (roles : List Role) (server : Server) (p : Permission) : Prop :=
  (∃ r, roles.find? (fun r => r.id == server.id) = some r ∧ p ∈ r.permissions) ∨
    ∃ r ∈ roles, r.id ∈ member.roles ∧ p ∈ r.permissions

def Override.Mentions (o : Override) (p : Permission) : Prop := p ∈ o.allow ∨ p ∈ o.deny

instance (o : Override) (p : Permission) : Decidable (o.Mentions p) :=
  inferInstanceAs (Decidable (_ ∨ _))

/-- As whose override one concerns a member. -/
inductive Tier where
  | everyone
  /-- The role at this place of the role list. -/
  | role (place : Nat)
  | user

inductive Tier.Above : Tier → Tier → Prop
  | user_role {i : Nat} : Above .user (.role i)
  | user_everyone : Above .user .everyone
  | role_role {i j : Nat} : j < i → Above (.role i) (.role j)
  | role_everyone {i : Nat} : Above (.role i) .everyone

/-- The tier of an override, and its place in the override list. -/
structure Standing where
  tier : Tier
  place : Nat

def Standing.Outranks (a b : Standing) : Prop :=
  a.tier.Above b.tier ∨ a.tier = b.tier ∧ b.place < a.place

/-- A target concerns a member at a tier. -/
inductive Target.Concerns (member : Member) (roles : List Role) (server : Server) :
    Target → Tier → Prop
  | everyone : Concerns member roles server (.role server.id) .everyone
  | role {i : Nat} {r : Role} : roles[i]? = some r → r.id ∈ member.roles → r.id ≠ server.id →
      Concerns member roles server (.role r.id) (.role i)
  | user : Concerns member roles server (.user member.userId) .user

theorem Target.Concerns.eq_user {member : Member} {roles : List Role} {server : Server}
    {target : Target} (h : target.Concerns member roles server .user) :
    target = .user member.userId := by
  cases h
  rfl

section
variable (member : Member) (roles : List Role) (server : Server) (channel : Channel)
  (overrides : List Override)

/-- `o` stands at `s` among the channel's overrides for the member, and mentions `p`. -/
structure Bears (p : Permission) (s : Standing) (o : Override) : Prop where
  listed : overrides[s.place]? = some o
  channel : o.channelId = channel.id
  concerns : o.target.Concerns member roles server s.tier
  mentions : o.Mentions p

/-- `o` is the strongest override that bears on `p`. -/
def Decides (p : Permission) (o : Override) : Prop :=
  ∃ s, Bears member roles server channel overrides p s o ∧
    ∀ s' o', Bears member roles server channel overrides p s' o' → ¬ s'.Outranks s

end

/-! ## The union of roles -/

theorem mem_foldl_union (p : Permission) (rs : List Role) (m : Mask) :
    p ∈ rs.foldl (fun m r => m ∪ r.permissions) m ↔ p ∈ m ∨ ∃ r ∈ rs, p ∈ r.permissions := by
  induction rs generalizing m with
  | nil => simp
  | cons r rs ih =>
    rw [List.foldl_cons, ih, Mask.mem_union]
    constructor
    · rintro ((h | h) | ⟨r', hr', h⟩)
      · exact Or.inl h
      · exact Or.inr ⟨r, List.mem_cons_self, h⟩
      · exact Or.inr ⟨r', List.mem_cons_of_mem _ hr', h⟩
    · rintro (h | ⟨r', hr', h⟩)
      · exact Or.inl (Or.inl h)
      · rcases List.mem_cons.1 hr' with rfl | hr'
        · exact Or.inl (Or.inr h)
        · exact Or.inr ⟨r', hr', h⟩

theorem mem_basePermissions (roles : List Role) (server : Server) (p : Permission) :
    p ∈ basePermissions roles server ↔
      ∃ r, roles.find? (fun r => r.id == server.id) = some r ∧ p ∈ r.permissions := by
  rw [basePermissions]
  simp only [Role.isDefaultOf]
  split
  · next r h => simp [h]
  · next h => simp [h]

theorem mem_rolePermissions (member : Member) (roles : List Role) (server : Server)
    (p : Permission) :
    p ∈ rolePermissions member roles server ↔ InUnion member roles server p := by
  rw [rolePermissions, mem_foldl_union, mem_basePermissions, InUnion]
  simp only [Member.heldRoles, Member.holds, List.mem_filter, List.contains_iff_mem, and_assoc]

/-! ## Overrides one after the other -/

theorem mem_foldl_apply_of_silent (p : Permission) (os : List Override) (m : Mask)
    (h : ∀ o ∈ os, ¬ o.Mentions p) : p ∈ os.foldl (fun m o => o.apply m) m ↔ p ∈ m := by
  induction os generalizing m with
  | nil => exact Iff.rfl
  | cons o os ih =>
    have ho : ¬ o.Mentions p := h o List.mem_cons_self
    have hallow : ¬ p ∈ o.allow := fun hp => ho (Or.inl hp)
    have hdeny : ¬ p ∈ o.deny := fun hp => ho (Or.inr hp)
    rw [List.foldl_cons, ih _ fun o' ho' => h o' (List.mem_cons_of_mem _ ho'), Override.mem_apply]
    simp [hallow, hdeny]

/-- The last override that mentions a permission decides it. -/
theorem mem_foldl_apply_of_last (p : Permission) (before after : List Override) (o : Override)
    (m : Mask) (ho : o.Mentions p) (h : ∀ o' ∈ after, ¬ o'.Mentions p) :
    p ∈ (before ++ o :: after).foldl (fun m o => o.apply m) m ↔ p ∈ o.allow := by
  rw [List.foldl_append, List.foldl_cons, mem_foldl_apply_of_silent p after _ h,
    Override.mem_apply]
  constructor
  · rintro (⟨-, hdeny⟩ | hallow)
    · exact ho.resolve_right hdeny
    · exact hallow
  · exact Or.inr

/-! ## The order of application is the order of standing -/

/-- The overrides for a target, each with its standing at a tier. -/
def placedFor (channel : Channel) (overrides : List Override) (tier : Tier) (target : Target) :
    List (Standing × Override) :=
  (overrides.zipIdx.filter fun e => e.1.channelId == channel.id && e.1.target == target).map
    fun e => (⟨tier, e.2⟩, e.1)

/-- The overrides that concern a member, in the order of application, each with its standing. -/
def placed (member : Member) (roles : List Role) (server : Server) (channel : Channel)
    (overrides : List Override) : List (Standing × Override) :=
  placedFor channel overrides .everyone (.role server.id) ++
    (roles.zipIdx.filter fun e => !e.1.isDefaultOf server && member.holds e.1.id).flatMap
      (fun e => placedFor channel overrides (.role e.2) (.role e.1.id)) ++
    placedFor channel overrides .user (.user member.userId)

theorem map_snd_placedFor (channel : Channel) (overrides : List Override) (tier : Tier)
    (target : Target) :
    (placedFor channel overrides tier target).map Prod.snd =
      overridesFor channel overrides target := by
  conv => rhs; rw [overridesFor, ← List.zipIdx_map_fst 0 overrides, List.filter_map]
  rw [placedFor, List.map_map]
  rfl

theorem map_snd_placed (member : Member) (roles : List Role) (server : Server)
    (channel : Channel) (overrides : List Override) :
    (placed member roles server channel overrides).map Prod.snd =
      applicable member roles server channel overrides := by
  have hroles : ((member.heldRoles roles).filter fun r => !r.isDefaultOf server) =
      (roles.zipIdx.filter fun e => !e.1.isDefaultOf server && member.holds e.1.id).map
        Prod.fst := by
    conv => lhs; rw [Member.heldRoles, List.filter_filter, ← List.zipIdx_map_fst 0 roles,
      List.filter_map]
    rfl
  rw [placed, applicable, hroles, List.map_append, List.map_append, map_snd_placedFor,
    map_snd_placedFor, List.map_flatMap, List.flatMap_map]
  simp only [map_snd_placedFor]

theorem mem_placedFor (channel : Channel) (overrides : List Override) (tier : Tier)
    (target : Target) (s : Standing) (o : Override) :
    (s, o) ∈ placedFor channel overrides tier target ↔
      s.tier = tier ∧ overrides[s.place]? = some o ∧ o.channelId = channel.id ∧
        o.target = target := by
  rw [placedFor, List.mem_map]
  simp only [List.mem_filter, List.mem_zipIdx_iff_getElem?, Bool.and_eq_true, beq_iff_eq]
  constructor
  · rintro ⟨⟨o', j⟩, ⟨hget, hc⟩, h⟩
    cases h
    exact ⟨rfl, hget, hc⟩
  · rintro ⟨rfl, hget, hc⟩
    exact ⟨(o, s.place), ⟨hget, hc⟩, rfl⟩

theorem mem_placed (member : Member) (roles : List Role) (server : Server) (channel : Channel)
    (overrides : List Override) (s : Standing) (o : Override) :
    (s, o) ∈ placed member roles server channel overrides ↔
      overrides[s.place]? = some o ∧ o.channelId = channel.id ∧
        o.target.Concerns member roles server s.tier := by
  rw [placed, List.mem_append, List.mem_append, List.mem_flatMap, mem_placedFor, mem_placedFor]
  constructor
  · rintro ((⟨ht, hget, hc, htarget⟩ | ⟨⟨r, i⟩, hr, h⟩) | ⟨ht, hget, hc, htarget⟩)
    · refine ⟨hget, hc, ?_⟩
      rw [ht, htarget]
      exact .everyone
    · rw [List.mem_filter, List.mem_zipIdx_iff_getElem?, Bool.and_eq_true] at hr
      obtain ⟨hget', hdefault, hheld⟩ := hr
      obtain ⟨ht, hget, hc, htarget⟩ := (mem_placedFor _ _ _ _ _ _).1 h
      refine ⟨hget, hc, ?_⟩
      rw [ht, htarget]
      refine .role hget' (List.contains_iff_mem.1 hheld) ?_
      simpa [Role.isDefaultOf] using hdefault
    · refine ⟨hget, hc, ?_⟩
      rw [ht, htarget]
      exact .user
  · rintro ⟨hget, hc, hconcerns⟩
    obtain ⟨tier, j⟩ := s
    obtain ⟨chan, target, allow, deny⟩ := o
    cases hconcerns with
    | everyone => exact Or.inl (Or.inl ⟨rfl, hget, hc, rfl⟩)
    | @role i r hr hheld hdefault =>
      refine Or.inl (Or.inr ⟨(r, i), ?_, (mem_placedFor _ _ _ _ _ _).2 ⟨rfl, hget, hc, rfl⟩⟩)
      rw [List.mem_filter, List.mem_zipIdx_iff_getElem?, Bool.and_eq_true]
      refine ⟨hr, ?_, List.contains_iff_mem.2 hheld⟩
      simpa [Role.isDefaultOf] using hdefault
    | user => exact Or.inr ⟨rfl, hget, hc, rfl⟩

theorem pairwise_zipIdx {α : Type} (l : List α) (n : Nat) :
    (l.zipIdx n).Pairwise fun a b => a.2 < b.2 := by
  have h : (List.range' n l.length).Pairwise (· < ·) := List.pairwise_lt_range'
  rw [← List.zipIdx_map_snd n l, List.pairwise_map] at h
  exact h

theorem pairwise_placedFor (channel : Channel) (overrides : List Override) (tier : Tier)
    (target : Target) :
    (placedFor channel overrides tier target).Pairwise fun a b => b.1.Outranks a.1 := by
  rw [placedFor, List.pairwise_map]
  exact ((pairwise_zipIdx overrides 0).filter _).imp fun h => Or.inr ⟨rfl, h⟩

theorem pairwise_placed (member : Member) (roles : List Role) (server : Server)
    (channel : Channel) (overrides : List Override) :
    (placed member roles server channel overrides).Pairwise fun a b => b.1.Outranks a.1 := by
  have htier : ∀ {tier target} {e : Standing × Override},
      e ∈ placedFor channel overrides tier target → e.1.tier = tier :=
    fun h => ((mem_placedFor _ _ _ _ _ _).1 h).1
  rw [placed, List.pairwise_append, List.pairwise_append, List.pairwise_flatMap]
  refine ⟨⟨pairwise_placedFor _ _ _ _, ⟨fun _ _ => pairwise_placedFor _ _ _ _, ?_⟩, ?_⟩,
    pairwise_placedFor _ _ _ _, ?_⟩
  · refine ((pairwise_zipIdx roles 0).filter _).imp fun hlt x hx y hy => Or.inl ?_
    rw [htier hx, htier hy]
    exact .role_role hlt
  · intro x hx y hy
    obtain ⟨e, -, hy⟩ := List.mem_flatMap.1 hy
    refine Or.inl ?_
    rw [htier hx, htier hy]
    exact .role_everyone
  · intro x hx y hy
    refine Or.inl ?_
    rw [htier hy]
    rcases List.mem_append.1 hx with hx | hx
    · rw [htier hx]
      exact .user_everyone
    · obtain ⟨e, -, hx⟩ := List.mem_flatMap.1 hx
      rw [htier hx]
      exact .user_role

theorem Standing.not_outranks_of_outranks {a b : Standing} (h : a.Outranks b) :
    ¬ b.Outranks a := by
  obtain ⟨t, i⟩ := a
  obtain ⟨u, j⟩ := b
  rintro (hb | ⟨hb, hlt⟩)
  · rcases h with h | ⟨h, -⟩
    · cases h <;> cases hb
      omega
    · cases h
      cases hb
      omega
  · rcases h with h | ⟨-, h⟩
    · cases hb
      cases h
      omega
    · exact Nat.lt_asymm h hlt

section
variable {member : Member} {roles : List Role} {server : Server} {channel : Channel}
  {overrides : List Override} {p : Permission}

theorem mem_foldl_of_silent (m : Mask)
    (h : ∀ s o, ¬ Bears member roles server channel overrides p s o) :
    p ∈ (applicable member roles server channel overrides).foldl (fun m o => o.apply m) m ↔
      p ∈ m := by
  refine mem_foldl_apply_of_silent p _ m fun o ho hmentions => ?_
  rw [← map_snd_placed] at ho
  obtain ⟨⟨s, o⟩, hmem, rfl⟩ := List.mem_map.1 ho
  obtain ⟨hget, hc, hconcerns⟩ := (mem_placed _ _ _ _ _ _ _).1 hmem
  exact h s o ⟨hget, hc, hconcerns, hmentions⟩

/-- After the strongest override none mentions the permission. -/
theorem mem_foldl_of_decides {o : Override} (m : Mask)
    (h : Decides member roles server channel overrides p o) :
    p ∈ (applicable member roles server channel overrides).foldl (fun m o => o.apply m) m ↔
      p ∈ o.allow := by
  obtain ⟨s, hs, hmax⟩ := h
  have hmem := (mem_placed _ _ _ _ _ _ _).2 ⟨hs.listed, hs.channel, hs.concerns⟩
  obtain ⟨before, after, hsplit⟩ := List.append_of_mem hmem
  have hpair := pairwise_placed member roles server channel overrides
  rw [hsplit, List.pairwise_append, List.pairwise_cons] at hpair
  rw [← map_snd_placed, hsplit, List.map_append, List.map_cons]
  refine mem_foldl_apply_of_last p _ _ o m hs.mentions fun o' ho' hmentions => ?_
  obtain ⟨⟨s', o'⟩, hafter, rfl⟩ := List.mem_map.1 ho'
  have hmem' : (s', o') ∈ placed member roles server channel overrides := by
    rw [hsplit]
    exact List.mem_append_right _ (List.mem_cons_of_mem _ hafter)
  obtain ⟨hget, hc, hconcerns⟩ := (mem_placed _ _ _ _ _ _ _).1 hmem'
  exact hmax s' o' ⟨hget, hc, hconcerns, hmentions⟩ (hpair.2.1.1 _ hafter)

/-- If any override bears on a permission, the last applied that does is the strongest. -/
theorem exists_decides (h : ∃ s o, Bears member roles server channel overrides p s o) :
    ∃ o, Decides member roles server channel overrides p o := by
  obtain ⟨s₀, o₀, h₀⟩ := h
  have hmem₀ := (mem_placed _ _ _ _ _ _ _).2 ⟨h₀.listed, h₀.channel, h₀.concerns⟩
  have hsome : ((placed member roles server channel overrides).reverse.find?
      fun e => decide (e.2.Mentions p)).isSome := by
    rw [List.find?_isSome]
    exact ⟨_, List.mem_reverse.2 hmem₀, decide_eq_true h₀.mentions⟩
  obtain ⟨⟨s, o⟩, hfind⟩ := Option.isSome_iff_exists.1 hsome
  obtain ⟨hmentions, after, before, hsplit, hafter⟩ := List.find?_eq_some_iff_append.1 hfind
  rw [List.reverse_eq_iff, List.reverse_append, List.reverse_cons, List.append_assoc,
    List.singleton_append] at hsplit
  have hmem : (s, o) ∈ placed member roles server channel overrides := by
    rw [hsplit]
    exact List.mem_append_right _ List.mem_cons_self
  obtain ⟨hget, hc, hconcerns⟩ := (mem_placed _ _ _ _ _ _ _).1 hmem
  refine ⟨o, s, ⟨hget, hc, hconcerns, of_decide_eq_true hmentions⟩, fun s' o' h' houtranks => ?_⟩
  have hmem' := (mem_placed _ _ _ _ _ _ _).2 ⟨h'.listed, h'.channel, h'.concerns⟩
  have hpair := pairwise_placed member roles server channel overrides
  rw [hsplit] at hmem' hpair
  rw [List.pairwise_append, List.pairwise_cons] at hpair
  rcases List.mem_append.1 hmem' with hbefore | hmem'
  · have hweaker := hpair.2.2 _ hbefore _ List.mem_cons_self
    exact Standing.not_outranks_of_outranks hweaker houtranks
  · rcases List.mem_cons.1 hmem' with heq | hin
    · cases heq
      exact Standing.not_outranks_of_outranks houtranks houtranks
    · have hsilent := hafter _ (List.mem_reverse.1 hin)
      simp only [Bool.not_eq_true', decide_eq_false_iff_not] at hsilent
      exact hsilent h'.mentions

end

/-! ## Resolution -/

section
variable (member : Member) (roles : List Role) (server : Server) (overrides : List Override)

theorem resolve_of_all (channel : Option Channel)
    (h : member.userId = server.ownerId ∨ InUnion member roles server .administrator) :
    resolve member roles server channel overrides = .all := by
  unfold resolve
  split
  · rfl
  · next ho =>
    have hadmin := (mem_rolePermissions member roles server _).2 (h.resolve_left ho)
    exact if_pos ((Mask.isAdmin_iff _).2 hadmin)

theorem resolve_of_not_all (channel : Option Channel)
    (h : ¬ (member.userId = server.ownerId ∨ InUnion member roles server .administrator)) :
    resolve member roles server channel overrides =
      match channel with
      | none => rolePermissions member roles server
      | some c => (applicable member roles server c overrides).foldl (fun m o => o.apply m)
          (rolePermissions member roles server) := by
  unfold resolve
  rw [if_neg fun ho => h (Or.inl ho)]
  refine if_neg fun hadmin => h (Or.inr ?_)
  exact (mem_rolePermissions _ _ _ _).1 ((Mask.isAdmin_iff _).1 hadmin)

variable {member roles server overrides}
variable {channel : Channel} {p : Permission}

theorem mem_resolve_of_decides {o : Override}
    (h : ¬ (member.userId = server.ownerId ∨ InUnion member roles server .administrator))
    (ho : Decides member roles server channel overrides p o) :
    p ∈ resolve member roles server (some channel) overrides ↔ p ∈ o.allow := by
  rw [resolve_of_not_all _ _ _ _ (some channel) h]
  exact mem_foldl_of_decides _ ho

theorem mem_resolve_of_silent
    (h : ¬ (member.userId = server.ownerId ∨ InUnion member roles server .administrator))
    (hs : ∀ s o, ¬ Bears member roles server channel overrides p s o) :
    p ∈ resolve member roles server (some channel) overrides ↔ InUnion member roles server p := by
  rw [resolve_of_not_all _ _ _ _ (some channel) h, ← mem_rolePermissions]
  exact mem_foldl_of_silent _ hs

end

/-- **The strongest override decides.** The owner and administrators have every permission;
anyone else has the union of their roles, changed bit by bit by the strongest override of the
channel that mentions the bit. -/
theorem resolve_by_precedence (member : Member) (roles : List Role) (server : Server)
    (overrides : List Override) :
    ((member.userId = server.ownerId ∨ InUnion member roles server .administrator) →
      ∀ channel, resolve member roles server channel overrides = .all) ∧
    (¬ (member.userId = server.ownerId ∨ InUnion member roles server .administrator) →
      (∀ p, p ∈ resolve member roles server none overrides ↔ InUnion member roles server p) ∧
      ∀ channel p,
        (∀ o, Decides member roles server channel overrides p o →
          (p ∈ resolve member roles server (some channel) overrides ↔ p ∈ o.allow)) ∧
        ((∀ s o, ¬ Bears member roles server channel overrides p s o) →
          (p ∈ resolve member roles server (some channel) overrides ↔
            InUnion member roles server p)) ∧
        ((∃ s o, Bears member roles server channel overrides p s o) →
          ∃ o, Decides member roles server channel overrides p o)) := by
  refine ⟨fun h channel => resolve_of_all _ _ _ _ channel h, fun h => ⟨fun p => ?_, ?_⟩⟩
  · rw [resolve_of_not_all _ _ _ _ none h, mem_rolePermissions]
  · intro channel p
    exact ⟨fun o => mem_resolve_of_decides h, mem_resolve_of_silent h, exists_decides⟩

/-! ## A member of a plain server -/

def plainServer : Server := ⟨⟨1⟩, ⟨2⟩⟩

/-- A member without roles. -/
def plainMember : Member := ⟨⟨3⟩, ⟨1⟩, []⟩

def plainRoles : List Role := [.everyone ⟨1⟩ .everyoneDefault]

def plainChannel : Channel := ⟨⟨4⟩, ⟨1⟩, 0⟩

/-- Everyone has the permission in the channel. -/
def openTo (p : Permission) : Override := ⟨⟨4⟩, .role ⟨1⟩, {p}, ∅⟩

/-- The member may not send messages in the channel. -/
def mute : Override := ⟨⟨4⟩, .user ⟨3⟩, ∅, {.sendMessages}⟩

theorem plainMember_not_all : ¬ (plainMember.userId = plainServer.ownerId ∨
    InUnion plainMember plainRoles plainServer .administrator) := by
  rw [← mem_rolePermissions]
  decide

/-- Where everyone may send messages, the override for the member decides that one does not. -/
theorem resolve_muted :
    Decides plainMember plainRoles plainServer plainChannel [mute, openTo .sendMessages]
      .sendMessages mute ∧
    ¬ .sendMessages ∈ resolve plainMember plainRoles plainServer (some plainChannel)
      [mute, openTo .sendMessages] ∧
    resolve ⟨⟨2⟩, ⟨1⟩, []⟩ plainRoles plainServer (some plainChannel)
      [mute, openTo .sendMessages] = .all := by
  have hdecides : Decides plainMember plainRoles plainServer plainChannel
      [mute, openTo .sendMessages] .sendMessages mute := by
    refine ⟨⟨.user, 0⟩, ⟨rfl, rfl, .user, Or.inr ((Mask.mem_single _ _).2 rfl)⟩, ?_⟩
    rintro ⟨tier, place⟩ o h (habove | ⟨rfl, hlater⟩)
    · cases habove
    · -- the only override after it is for everyone
      have hlisted := h.listed
      have htarget := h.concerns.eq_user
      obtain rfl | ⟨k, rfl⟩ : place = 1 ∨ ∃ k, place = k + 2 := by
        have hplace : 0 < place := hlater
        exact (Nat.eq_or_lt_of_le hplace).imp Eq.symm fun hlt => ⟨place - 2, by omega⟩
      · cases hlisted
        cases htarget
      · cases hlisted
  obtain ⟨-, hothers⟩ :=
    resolve_by_precedence plainMember plainRoles plainServer [mute, openTo .sendMessages]
  have hmute := ((hothers plainMember_not_all).2 plainChannel .sendMessages).1 mute hdecides
  refine ⟨hdecides, fun h => Mask.not_mem_empty _ (hmute.1 h), ?_⟩
  exact (resolve_by_precedence ⟨⟨2⟩, ⟨1⟩, []⟩ plainRoles plainServer _).1 (Or.inl rfl) _

end Turnstile
