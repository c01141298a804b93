import Turnstile.Proofs.Permission.Precedence

/-!
# What concerns a member

Of all that is known of a server, resolution looks at the default role and the roles that the
member holds, and in a channel at its overrides for one of these or for the member. Two worlds
that agree in this resolve alike. Of the overrides only those with one target have to come in
the same order, since those for different targets are applied in an order of their own.

    a.SameFor channel b                what two worlds have to agree in
    resolution reads the grants        (heldRoles_grants, basePermissions_eq, bears_role)
    a.SameFor channel b → both resolve to the same permissions               (SameFor.resolve_eq)
    what does not concern a member can be anything                        (resolve_ignores_others)
-/

namespace Turnstile

/-! ## The part that concerns a member -/

/-- The default role and the roles held, in the order of the list. Only the first role with
the server's identifier is the default role. -/
def bearingRoles (member : Member) (server : Server) : List Role → List Role
  | [] => []
  | r :: rest =>
    if r.isDefaultOf server then r :: member.heldRoles rest
    else if member.holds r.id then r :: bearingRoles member server rest
    else bearingRoles member server rest

/-- A target concerns a member if it is the default role, a listed role that is held, or the
user. -/
def Target.bears (member : Member) (roles : List Role) (server : Server) : Target → Bool
  | .role id => id == server.id || (member.heldRoles roles).any (·.id == id)
  | .user id => id == member.userId

/-- The overrides of a channel that concern a member, in the order of the list. -/
def bearingOverrides (member : Member) (roles : List Role) (server : Server) (channel : Channel)
    (overrides : List Override) : List Override :=
  overrides.filter fun o => o.channelId == channel.id && o.target.bears member roles server

/-- The same overrides in an order that may differ, but not among those with one target. -/
def Reordered (os os' : List Override) : Prop :=
  ∀ target, os.filter (·.target == target) = os'.filter (·.target == target)

/-- What resolution reads of a role. -/
def Role.grant (r : Role) : Uuid × Mask := (r.id, r.permissions)

/-- Two worlds agree in the user, and in the default role and the roles the user holds. -/
structure Actor.SameRoles (a b : Actor) : Prop where
  server : a.server = b.server
  userId : a.userId = b.userId
  roleIds : ∀ id, id ∈ a.member.roles ↔ id ∈ b.member.roles
  roles : (bearingRoles a.member a.server a.roles).map Role.grant =
    (bearingRoles b.member b.server b.roles).map Role.grant

/-- Two worlds agree in what concerns the member, in a channel if one is given. -/
structure Actor.SameFor (channel : Option Channel) (a b : Actor) : Prop extends
    Actor.SameRoles a b where
  overrides : ∀ c, channel = some c →
    Reordered (bearingOverrides a.member a.roles a.server c a.overrides)
      (bearingOverrides b.member b.roles b.server c b.overrides)

/-! ## Roles that concern a member -/

section
variable (member : Member) (server : Server) (roles : List Role)

theorem find?_bearingRoles :
    (bearingRoles member server roles).find? (·.isDefaultOf server) =
      roles.find? (·.isDefaultOf server) := by
  induction roles with
  | nil => rfl
  | cons r rest ih =>
    rw [bearingRoles]
    by_cases hdefault : r.isDefaultOf server = true
    · simp only [hdefault, if_true, List.find?_cons]
    · split
      · contradiction
      · split
        · simp only [hdefault, List.find?_cons, ih]
        · simp only [hdefault, List.find?_cons, ih]

theorem heldRoles_bearingRoles :
    member.heldRoles (bearingRoles member server roles) = member.heldRoles roles := by
  unfold Member.heldRoles
  induction roles with
  | nil => rfl
  | cons r rest ih =>
    rw [bearingRoles]
    by_cases hheld : member.holds r.id = true
    · split
      · simp [Member.heldRoles, hheld]
      · simp [hheld, ih]
    · split
      · simp [Member.heldRoles, hheld]
      · simp [hheld, ih]

/-- Resolution reads the grants of the roles held, … -/
theorem heldRoles_grants :
    (member.heldRoles roles).map Role.grant =
      ((bearingRoles member server roles).map Role.grant).filter fun g => member.holds g.1 := by
  rw [List.filter_map, ← heldRoles_bearingRoles member server roles]
  rfl

/-- … and that of the default role. -/
theorem basePermissions_eq :
    basePermissions roles server =
      (((bearingRoles member server roles).map Role.grant).find? (·.1 == server.id)).elim ∅
        Prod.snd := by
  rw [List.find?_map]
  show _ = (((bearingRoles member server roles).find? (·.isDefaultOf server)).map _).elim ∅ Prod.snd
  rw [find?_bearingRoles, basePermissions]
  cases roles.find? (·.isDefaultOf server) with
  | none => rfl
  | some r => rfl

theorem rolePermissions_eq :
    rolePermissions member roles server =
      ((member.heldRoles roles).map Role.grant).foldl (fun m g => m ∪ g.2)
        (basePermissions roles server) := by
  rw [List.foldl_map]
  rfl

theorem bears_role (id : Uuid) :
    (Target.role id).bears member roles server =
      (id == server.id || ((member.heldRoles roles).map Role.grant).any (·.1 == id)) := by
  rw [List.any_map]
  rfl

theorem applicable_eq (channel : Channel) (overrides : List Override) :
    applicable member roles server channel overrides =
      overridesFor channel overrides (.role server.id) ++
        (((member.heldRoles roles).map Role.grant).filter fun g => !(g.1 == server.id)).flatMap
          (fun g => overridesFor channel overrides (.role g.1)) ++
        overridesFor channel overrides (.user member.userId) := by
  rw [List.filter_map, List.flatMap_map]
  rfl

end

/-! ## Overrides for one target -/

/-- The overrides for one target that concern a member are all or none. -/
theorem filter_bearingOverrides (member : Member) (roles : List Role) (server : Server)
    (channel : Channel) (overrides : List Override) {target : Target}
    (h : target.bears member roles server = true) :
    (bearingOverrides member roles server channel overrides).filter (·.target == target) =
      overridesFor channel overrides target := by
  rw [bearingOverrides, List.filter_filter, overridesFor]
  refine List.filter_congr fun o _ => ?_
  by_cases htarget : o.target = target
  · simp [htarget, h]
  · simp [beq_false_of_ne htarget]

/-- Overrides for different targets change places. -/
theorem reordered_swap (before after : List Override) {o o' : Override}
    (h : o.target ≠ o'.target) :
    Reordered (before ++ o :: o' :: after) (before ++ o' :: o :: after) := by
  intro target
  simp only [List.filter_append, List.filter_cons]
  by_cases ho : o.target = target
  · have ho' : o'.target ≠ target := fun ho' => h (ho.trans ho'.symm)
    simp [ho, beq_false_of_ne ho']
  · simp [beq_false_of_ne ho]

/-! ## Two worlds -/

namespace Actor.SameRoles

variable {a b : Actor}

theorem holds (h : a.SameRoles b) : a.member.holds = b.member.holds := by
  funext id
  rw [Member.holds, Member.holds, Bool.eq_iff_iff, List.contains_iff_mem, List.contains_iff_mem]
  exact h.roleIds id

theorem heldRoles (h : a.SameRoles b) :
    (a.member.heldRoles a.roles).map Role.grant = (b.member.heldRoles b.roles).map Role.grant := by
  rw [heldRoles_grants a.member a.server, heldRoles_grants b.member b.server, h.roles, h.holds]

theorem rolePermissions (h : a.SameRoles b) :
    Turnstile.rolePermissions a.member a.roles a.server =
      Turnstile.rolePermissions b.member b.roles b.server := by
  rw [rolePermissions_eq, rolePermissions_eq, h.heldRoles, basePermissions_eq a.member,
    basePermissions_eq b.member, h.roles, h.server]

/-- The same targets concern the member. -/
theorem bears (h : a.SameRoles b) (target : Target) :
    target.bears a.member a.roles a.server = target.bears b.member b.roles b.server := by
  cases target with
  | role id => rw [bears_role, bears_role, h.heldRoles, h.server]
  | user id =>
    show (id == a.userId) = (id == b.userId)
    rw [h.userId]

theorem bearingOverrides (h : a.SameRoles b) (c : Channel) (overrides : List Override) :
    Turnstile.bearingOverrides a.member a.roles a.server c overrides =
      Turnstile.bearingOverrides b.member b.roles b.server c overrides := by
  unfold Turnstile.bearingOverrides
  simp only [h.bears]

/-- With the same overrides as well, they agree in everything. -/
theorem sameFor (h : a.SameRoles b) (hoverrides : a.overrides = b.overrides)
    (channel : Option Channel) : a.SameFor channel b := by
  refine ⟨h, fun c _ target => ?_⟩
  rw [h.bearingOverrides, hoverrides]

end Actor.SameRoles

namespace Actor.SameFor

variable {channel : Option Channel} {a b : Actor}

/-- For a target that concerns the member, both have the same overrides in the same order. -/
theorem overridesFor {c : Channel} (h : a.SameFor (some c) b) {target : Target}
    (htarget : target.bears a.member a.roles a.server = true) :
    Turnstile.overridesFor c a.overrides target = Turnstile.overridesFor c b.overrides target := by
  have hsame := h.overrides c rfl target
  rw [filter_bearingOverrides _ _ _ _ _ htarget, filter_bearingOverrides] at hsame
  · exact hsame
  · rw [← h.bears]
    exact htarget

/-- The overrides are applied target by target, so both apply the same. -/
theorem applicable {c : Channel} (h : a.SameFor (some c) b) :
    Turnstile.applicable a.member a.roles a.server c a.overrides =
      Turnstile.applicable b.member b.roles b.server c b.overrides := by
  have huser : a.member.userId = b.member.userId := h.userId
  have heveryone : Turnstile.overridesFor c a.overrides (.role a.server.id) =
      Turnstile.overridesFor c b.overrides (.role a.server.id) :=
    h.overridesFor (by simp [Target.bears])
  have hmember : Turnstile.overridesFor c a.overrides (.user a.member.userId) =
      Turnstile.overridesFor c b.overrides (.user a.member.userId) :=
    h.overridesFor (by simp [Target.bears])
  have hheld : ∀ g ∈ ((a.member.heldRoles a.roles).map Role.grant).filter
      (fun g => !(g.1 == a.server.id)),
      Turnstile.overridesFor c a.overrides (.role g.1) =
        Turnstile.overridesFor c b.overrides (.role g.1) := by
    intro g hg
    refine h.overridesFor ?_
    have hany : ((a.member.heldRoles a.roles).map Role.grant).any (·.1 == g.1) = true :=
      List.any_eq_true.2 ⟨g, (List.mem_filter.1 hg).1, beq_self_eq_true _⟩
    rw [bears_role, hany, Bool.or_true]
  rw [applicable_eq, applicable_eq, heveryone, hmember, List.flatMap_def, List.flatMap_def,
    List.map_congr_left hheld, h.heldRoles, h.server, huser]

/-- Worlds that agree in what concerns the member resolve alike. -/
theorem resolve_eq (h : a.SameFor channel b) :
    resolve a.member a.roles a.server channel a.overrides =
      resolve b.member b.roles b.server channel b.overrides := by
  have huser : a.member.userId = b.member.userId := h.userId
  unfold resolve
  rw [h.rolePermissions, huser]
  cases channel with
  | none => rw [h.server]
  | some c =>
    dsimp only
    rw [h.applicable, h.server]

end Actor.SameFor

/-! ## Changes that do not concern a member -/

section
variable {member : Member} {server : Server}

/-- A role that is neither the default role nor held. -/
theorem bearingRoles_insert {r : Role} (hheld : ¬ r.id ∈ member.roles)
    (hdefault : r.id ≠ server.id) (before after : List Role) :
    bearingRoles member server (before ++ r :: after) =
      bearingRoles member server (before ++ after) := by
  have hheld : ¬ member.holds r.id = true := fun h => hheld (List.contains_iff_mem.1 h)
  have hdefault : ¬ r.isDefaultOf server = true := fun h => hdefault (eq_of_beq h)
  induction before with
  | nil => rw [List.nil_append, bearingRoles, if_neg hdefault, if_neg hheld, List.nil_append]
  | cons r' before ih =>
    have hrest : member.heldRoles (before ++ r :: after) = member.heldRoles (before ++ after) := by
      simp [Member.heldRoles, hheld]
    rw [List.cons_append, List.cons_append, bearingRoles, bearingRoles, ih, hrest]

/-- Roles that are given other names, positions or marks. -/
theorem bearingRoles_map {f : Role → Role} (hf : ∀ r, (f r).grant = r.grant) (roles : List Role) :
    (bearingRoles member server (roles.map f)).map Role.grant =
      (bearingRoles member server roles).map Role.grant := by
  have hid : ∀ r, (f r).id = r.id := fun r => congrArg Prod.fst (hf r)
  have hgrant : Role.grant ∘ f = Role.grant := funext hf
  induction roles with
  | nil => rfl
  | cons r rest ih =>
    have hrest : (member.heldRoles (rest.map f)).map Role.grant =
        (member.heldRoles rest).map Role.grant := by
      rw [Member.heldRoles, List.filter_map, List.map_map, hgrant]
      simp only [Function.comp_def, hid]
      rfl
    have hdefault : (f r).isDefaultOf server = r.isDefaultOf server :=
      congrArg (· == server.id) (hid r)
    rw [List.map_cons, bearingRoles, bearingRoles, hdefault, hid]
    split
    · rw [List.map_cons, List.map_cons, hf, hrest]
    · split
      · rw [List.map_cons, List.map_cons, hf, ih]
      · exact ih

/-- An override of another channel, or one that is not for the member. -/
theorem bearingOverrides_insert {roles : List Role} {c : Channel} {o : Override}
    (h : o.channelId ≠ c.id ∨ o.target.bears member roles server = false)
    (before after : List Override) :
    bearingOverrides member roles server c (before ++ o :: after) =
      bearingOverrides member roles server c (before ++ after) := by
  have ho : ¬ (o.channelId == c.id && o.target.bears member roles server) = true := by
    rcases h with hchannel | htarget
    · simp [beq_false_of_ne hchannel]
    · simp [htarget]
  simp only [bearingOverrides, List.filter_append, List.filter_cons, if_neg ho]

/-- Reordering all overrides reorders those that concern the member. -/
theorem reordered_bearing {roles : List Role} {c : Channel} {os os' : List Override}
    (h : Reordered os os') :
    Reordered (bearingOverrides member roles server c os)
      (bearingOverrides member roles server c os') := by
  have hcomm : ∀ target os, (bearingOverrides member roles server c os).filter (·.target == target) =
      (os.filter (·.target == target)).filter fun o =>
        o.channelId == c.id && o.target.bears member roles server := by
    intro target os
    rw [bearingOverrides, List.filter_filter, List.filter_filter]
    exact List.filter_congr fun o _ => Bool.and_comm _ _
  intro target
  rw [hcomm, hcomm, h target]

/-- Worlds with the same roles that differ in the overrides alone. -/
theorem sameFor_of_reordered {roles : List Role} {c : Channel} {os os' : List Override}
    (h : Reordered (bearingOverrides member roles server c os)
      (bearingOverrides member roles server c os')) :
    Actor.SameFor (some c) ⟨server, member, roles, os⟩ ⟨server, member, roles, os'⟩ := by
  refine ⟨⟨rfl, rfl, fun _ => Iff.rfl, rfl⟩, fun c' hc => ?_⟩
  cases hc
  exact h

/-- A list with at most one element of a kind has the same one in any order. -/
theorem find?_perm {α : Type} {p : α → Bool} {l l' : List α} (h : l.Perm l')
    (hone : l.countP p ≤ 1) : l.find? p = l'.find? p := by
  have hfilter := h.filter p
  rw [List.countP_eq_length_filter] at hone
  rw [← List.head?_filter, ← List.head?_filter]
  match hl : l.filter p, hone with
  | [], _ =>
    rw [hl] at hfilter
    rw [hfilter.nil_eq]
  | [x], _ =>
    rw [hl] at hfilter
    rw [List.singleton_perm.1 hfilter]

/-- The order of the roles does not matter to what they permit, if only one of them is the
default role. -/
theorem rolePermissions_perm {roles roles' : List Role} (h : roles.Perm roles')
    (hone : roles.countP (·.isDefaultOf server) ≤ 1) :
    rolePermissions member roles server = rolePermissions member roles' server := by
  have hdefault : roles.find? (fun r => r.id == server.id) =
      roles'.find? (fun r => r.id == server.id) := find?_perm h hone
  rw [Mask.ext_iff_mem]
  intro p
  rw [mem_rolePermissions, mem_rolePermissions, InUnion, InUnion, hdefault]
  simp only [h.mem_iff]

end

/-- **Resolution sees only what concerns the member.** Two worlds resolve alike if they agree
in the server, the user, the identifiers of the user's roles, what the default role and the
roles held permit, and the overrides for these and for the user, whatever the order of those
for different targets. So a role that is not held can be added or removed, roles can be given
other names, positions and marks, and overrides for others and of other channels can be added
or removed. In the server as a whole the order of the roles does not matter either, as long as
at most one of them has the server's identifier. -/
theorem resolve_ignores_others :
    (∀ channel (a b : Actor), a.SameFor channel b →
      resolve a.member a.roles a.server channel a.overrides =
        resolve b.member b.roles b.server channel b.overrides) ∧
    ∀ (member : Member) (server : Server),
      (∀ before r after channel overrides, ¬ r.id ∈ member.roles → r.id ≠ server.id →
        resolve member (before ++ r :: after) server channel overrides =
          resolve member (before ++ after) server channel overrides) ∧
      (∀ roles (f : Role → Role) channel overrides, (∀ r, (f r).grant = r.grant) →
        resolve member (roles.map f) server channel overrides =
          resolve member roles server channel overrides) ∧
      (∀ roles c before o after,
        (o.channelId ≠ c.id ∨ o.target.bears member roles server = false) →
        resolve member roles server (some c) (before ++ o :: after) =
          resolve member roles server (some c) (before ++ after)) ∧
      (∀ roles c before o o' after, o.target ≠ o'.target →
        resolve member roles server (some c) (before ++ o :: o' :: after) =
          resolve member roles server (some c) (before ++ o' :: o :: after)) ∧
      ∀ roles roles' overrides overrides', roles.Perm roles' →
        roles.countP (·.isDefaultOf server) ≤ 1 →
        resolve member roles server none overrides =
          resolve member roles' server none overrides' := by
  refine ⟨fun channel a b h => h.resolve_eq, fun member server => ⟨?_, ?_, ?_, ?_, ?_⟩⟩
  · intro before r after channel overrides hheld hdefault
    have hroles := bearingRoles_insert hheld hdefault before after
    have hsame : Actor.SameRoles ⟨server, member, before ++ r :: after, overrides⟩
        ⟨server, member, before ++ after, overrides⟩ :=
      ⟨rfl, rfl, fun _ => Iff.rfl, congrArg (List.map Role.grant) hroles⟩
    exact (hsame.sameFor rfl channel).resolve_eq
  · intro roles f channel overrides hf
    have hsame : Actor.SameRoles ⟨server, member, roles.map f, overrides⟩
        ⟨server, member, roles, overrides⟩ :=
      ⟨rfl, rfl, fun _ => Iff.rfl, bearingRoles_map hf roles⟩
    exact (hsame.sameFor rfl channel).resolve_eq
  · intro roles c before o after ho
    exact (sameFor_of_reordered fun target => by rw [bearingOverrides_insert ho]).resolve_eq
  · intro roles c before o o' after ho
    exact (sameFor_of_reordered <| reordered_bearing (reordered_swap before after ho)).resolve_eq
  · intro roles roles' overrides overrides' hperm hone
    unfold resolve
    rw [rolePermissions_perm hperm hone]

/-! ## A speaker, in a quiet and in a busy server -/

def speakerRole : Role := ⟨⟨5⟩, ⟨1⟩, "speakers", {.addReactions}, 3, false⟩

/-- Speakers may send messages in the channel. -/
def openToSpeakers : Override := ⟨⟨4⟩, .role ⟨5⟩, {.sendMessages}, ∅⟩

/-- The member is a speaker, but muted. -/
def quietWorld : Actor :=
  ⟨plainServer, ⟨⟨3⟩, ⟨1⟩, [⟨5⟩]⟩, [speakerRole, .everyone ⟨1⟩ ∅], [openToSpeakers, mute]⟩

/-- The same with administrators, a second role with the server's identifier, other names and
positions, and overrides for others, some of them in another channel. -/
def busyWorld : Actor :=
  ⟨plainServer, ⟨⟨3⟩, ⟨8⟩, [⟨5⟩, ⟨5⟩]⟩,
   [⟨⟨7⟩, ⟨1⟩, "admins", .all, 0, false⟩, { speakerRole with name := "orators", position := 9 },
    { Role.everyone ⟨1⟩ ∅ with isDefault := false }, .everyone ⟨1⟩ .all],
   [mute, ⟨⟨4⟩, .role ⟨7⟩, .all, ∅⟩, openToSpeakers, ⟨⟨6⟩, .user ⟨3⟩, .all, ∅⟩,
    ⟨⟨4⟩, .user ⟨9⟩, .all, ∅⟩]⟩

theorem sameFor_busyWorld : quietWorld.SameFor (some plainChannel) busyWorld where
  server := rfl
  userId := rfl
  roleIds := by simp [quietWorld, busyWorld]
  roles := by decide
  overrides := by
    intro c hc
    cases hc
    exact reordered_swap [] [] (by decide)

theorem resolve_busyWorld :
    quietWorld.SameFor (some plainChannel) busyWorld ∧
    quietWorld.channelPermissions plainChannel = busyWorld.channelPermissions plainChannel ∧
    ¬ .sendMessages ∈ busyWorld.channelPermissions plainChannel ∧
    resolve quietWorld.member quietWorld.roles plainServer none [] =
      resolve quietWorld.member quietWorld.roles.reverse plainServer none [mute] := by
  obtain ⟨hsame, hchanges⟩ := resolve_ignores_others
  obtain ⟨-, -, -, -, horder⟩ := hchanges quietWorld.member plainServer
  have hchannel : quietWorld.channelPermissions plainChannel =
      busyWorld.channelPermissions plainChannel :=
    hsame (some plainChannel) quietWorld busyWorld sameFor_busyWorld
  have hmuted : ¬ .sendMessages ∈ quietWorld.channelPermissions plainChannel := by decide
  refine ⟨sameFor_busyWorld, hchannel, fun h => ?_, ?_⟩
  · exact hmuted (hchannel ▸ h)
  · exact horder _ _ _ _ (List.reverse_perm _).symm (by decide)

end Turnstile
