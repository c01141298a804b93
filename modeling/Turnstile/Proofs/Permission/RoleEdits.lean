import Turnstile.Proofs.Guard.Permitted
import Turnstile.Proofs.Permission.Precedence

/-!
# Edits of roles

Members who manage roles give them new permissions. An edit is checked as things stand when
it is made, so one edit may be what permits the next. Whatever a group of members does in
this way, nobody comes to hold more than before but for what the group held together at the
start, provided that no administrator was among them.

    checkManageRole held actorRank roleRank new = .ok () ↔ …              (checkManageRole_iff)
    an edit keeps: each role has at most `extra` more than at first       (grownBy_edit)
    p ∈ resolve … grown roles → p ∈ resolve … roles ∨ p ∈ extra           (mem_resolve_map)
    every prefix of the edits                                             (permissions_after_edits)
-/

namespace Turnstile

/-- A server with its roles and the overrides of its channels. -/
structure Realm where
  server : Server
  roles : List Role
  overrides : List Override

namespace Realm

/-- A member as things stand. -/
def actor (w : Realm) (m : Member) : Actor := ⟨w.server, m, w.roles, w.overrides⟩

/-- What the members of a group may do in the server, taken together. -/
def jointPermissions (w : Realm) (group : List Member) : Mask :=
  group.foldl (fun joint a => joint ∪ (w.actor a).serverPermissions) ∅

end Realm

/-- New permissions for a role, and the member who gives them. -/
structure RoleEdit where
  editor : Member
  roleId : Uuid
  permissions : Mask

namespace RoleEdit

def onRole (e : RoleEdit) (r : Role) : Role :=
  if r.id = e.roleId then { r with permissions := e.permissions } else r

/-- Every entry of the role list with the identifier gets the new permissions. -/
def apply (e : RoleEdit) (w : Realm) : Realm := { w with roles := w.roles.map e.onRole }

/-- The role is in the list, and the editor may give it these permissions. -/
def Passes (e : RoleEdit) (w : Realm) : Prop :=
  ∃ r ∈ w.roles, r.id = e.roleId ∧
    checkManageRole (w.actor e.editor).serverPermissions (w.actor e.editor).rank r.position
      (some e.permissions) = .ok ()

end RoleEdit

/-- Each edit is made by a member of the group, and passes when it is made. -/
inductive Authorised (group : List Member) : Realm → List RoleEdit → Prop
  | nil (w : Realm) : Authorised group w []
  | cons {w : Realm} {e : RoleEdit} {rest : List RoleEdit} : e.editor ∈ group → e.Passes w →
      Authorised group (e.apply w) rest → Authorised group w (e :: rest)

def Realm.after (w : Realm) (edits : List RoleEdit) : Realm :=
  edits.foldl (fun w e => e.apply w) w

/-! ## The check -/

/-- When a role may be changed, and given new permissions if any are named. -/
theorem checkManageRole_iff (held : Mask) (actorRank roleRank : Int32) (new : Option Mask) :
    checkManageRole held actorRank roleRank new = .ok () ↔
      (.administrator ∈ held ∨ .manageRoles ∈ held) ∧ actorRank < roleRank ∧
        (.administrator ∈ held ∨ ∀ given, new = some given → given ⊆ held) := by
  unfold checkManageRole
  rw [requirePermission_single, ← Int32.not_le]
  by_cases hmanages : .administrator ∈ held ∨ .manageRoles ∈ held
  · simp only [hmanages, if_true, bind, Except.bind, true_and]
    by_cases hrank : roleRank ≤ actorRank
    · simp [hrank]
    · by_cases hadmin : .administrator ∈ held
      · simp [hrank, (Mask.isAdmin_iff held).2 hadmin, hadmin]
      · have hnot : ¬ held.isAdmin = true := mt (Mask.isAdmin_iff held).1 hadmin
        cases new with
        | none => simp [hrank, hnot]
        | some new =>
          by_cases hnew : new ⊆ held
          · simp [hrank, hnot, hnew, (Mask.isEmpty_sdiff_iff new held).2 hnew]
          · have hexcess : ¬ (new \ held).isEmpty = true :=
              mt (Mask.isEmpty_sdiff_iff new held).1 hnew
            simp [hrank, hnot, hnew, hadmin, hexcess]
  · simp [hmanages, bind, Except.bind]

/-! ## Roles with more permissions -/

/-- A change of roles that gives each of them at most `extra` more. -/
structure GivesAtMost (extra : Mask) (roles : List Role) (f : Role → Role) : Prop where
  id_eq : ∀ r, (f r).id = r.id
  mem : ∀ r ∈ roles, ∀ p, p ∈ (f r).permissions → p ∈ r.permissions ∨ p ∈ extra

section
variable {extra : Mask} {roles : List Role} {f : Role → Role} {member : Member} {server : Server}
  {p : Permission}

theorem inUnion_map (hf : GivesAtMost extra roles f)
    (h : InUnion member (roles.map f) server p) : InUnion member roles server p ∨ p ∈ extra := by
  rcases h with ⟨r, hfind, hp⟩ | ⟨r, hr, hheld, hp⟩
  · rw [List.find?_map] at hfind
    obtain ⟨r₀, hfind₀, rfl⟩ := Option.map_eq_some_iff.1 hfind
    have hsame : ((fun r : Role => r.id == server.id) ∘ f) = fun r => r.id == server.id := by
      funext r
      simp [hf.id_eq r]
    rw [hsame] at hfind₀
    have hr₀ := List.mem_of_find?_eq_some hfind₀
    exact (hf.mem r₀ hr₀ p hp).imp (fun h => Or.inl ⟨r₀, hfind₀, h⟩) id
  · obtain ⟨r₀, hr₀, rfl⟩ := List.mem_map.1 hr
    rw [hf.id_eq] at hheld
    exact (hf.mem r₀ hr₀ p hp).imp (fun h => Or.inr ⟨r₀, hr₀, hheld, h⟩) id

/-- Which overrides concern a member does not depend on what the roles permit. -/
theorem applicable_map (hf : GivesAtMost extra roles f) (channel : Channel)
    (overrides : List Override) :
    applicable member (roles.map f) server channel overrides =
      applicable member roles server channel overrides := by
  unfold applicable Member.heldRoles
  rw [List.filter_filter, List.filter_filter, List.filter_map, List.flatMap_map]
  simp [Function.comp_def, Role.isDefaultOf, hf.id_eq]

/-- Overrides add to a larger mask nothing that they do not add to a smaller one. -/
theorem mem_foldl_apply_of_mem {q : Prop} (os : List Override) {a b : Mask}
    (h : p ∈ a → p ∈ b ∨ q) (hp : p ∈ os.foldl (fun m o => o.apply m) a) :
    p ∈ os.foldl (fun m o => o.apply m) b ∨ q := by
  induction os generalizing a b with
  | nil => exact h hp
  | cons o os ih =>
    refine ih (fun ha => ?_) hp
    rw [Override.mem_apply] at ha ⊢
    rcases ha with ⟨hmem, hdeny⟩ | hallow
    · exact (h hmem).imp (fun hb => Or.inl ⟨hb, hdeny⟩) id
    · exact Or.inl (Or.inr hallow)

/-- What is resolved from roles with more permissions is more by no more than that. It must
not make an administrator, who would have everything. -/
theorem mem_resolve_map (hf : GivesAtMost extra roles f) (hextra : ¬ .administrator ∈ extra)
    (channel : Option Channel) (overrides : List Override)
    (hp : p ∈ resolve member (roles.map f) server channel overrides) :
    p ∈ resolve member roles server channel overrides ∨ p ∈ extra := by
  by_cases hall : member.userId = server.ownerId ∨ InUnion member roles server .administrator
  · rw [resolve_of_all member roles server overrides channel hall]
    exact Or.inl (Mask.mem_all p)
  · have hall' : ¬ (member.userId = server.ownerId ∨
        InUnion member (roles.map f) server .administrator) := by
      rintro (howner | hadmin)
      · exact hall (Or.inl howner)
      · exact hall (Or.inr ((inUnion_map hf hadmin).resolve_right hextra))
    rw [resolve_of_not_all _ _ _ _ channel hall'] at hp
    rw [resolve_of_not_all _ _ _ _ channel hall]
    have hunion : p ∈ rolePermissions member (roles.map f) server →
        p ∈ rolePermissions member roles server ∨ p ∈ extra := by
      rw [mem_rolePermissions, mem_rolePermissions]
      exact inUnion_map hf
    cases channel with
    | none => exact hunion hp
    | some c =>
      simp only [applicable_map hf] at hp
      exact mem_foldl_apply_of_mem _ hunion hp

end

/-! ## One edit and many -/

/-- `now` is `w` with at most `extra` more for each role. -/
structure Realm.GrownBy (extra : Mask) (w now : Realm) : Prop where
  server_eq : now.server = w.server
  overrides_eq : now.overrides = w.overrides
  roles_eq : ∃ f, GivesAtMost extra w.roles f ∧ now.roles = w.roles.map f

section
variable {extra : Mask} {group : List Member} {w now : Realm}

theorem Realm.GrownBy.refl (extra : Mask) (w : Realm) : w.GrownBy extra w :=
  ⟨rfl, rfl, id, ⟨fun _ => rfl, fun _ _ _ hp => Or.inl hp⟩, (List.map_id _).symm⟩

theorem Realm.GrownBy.subset (h : w.GrownBy extra now) (hextra : ¬ .administrator ∈ extra)
    (m : Member) :
    (now.actor m).serverPermissions ⊆ (w.actor m).serverPermissions ∪ extra ∧
    ∀ c, (now.actor m).channelPermissions c ⊆ (w.actor m).channelPermissions c ∪ extra := by
  obtain ⟨hserver, hoverrides, f, hf, hroles⟩ := h
  have hresolve : ∀ channel overrides, resolve m now.roles now.server channel overrides ⊆
      resolve m w.roles w.server channel overrides ∪ extra := by
    intro channel overrides
    rw [Mask.subset_iff_mem, hserver, hroles]
    intro p hp
    rw [Mask.mem_union]
    exact mem_resolve_map hf hextra channel overrides hp
  refine ⟨hresolve none [], fun c => ?_⟩
  have hchannel := hresolve (some c) now.overrides
  rw [hoverrides] at hchannel
  show resolve m now.roles now.server (some c) now.overrides ⊆ _
  rw [hoverrides]
  exact hchannel

/-- The step: permissions out of `extra` keep the roles within `extra` of what they were. -/
theorem grownBy_edit (h : w.GrownBy extra now) {e : RoleEdit} (he : e.permissions ⊆ extra) :
    w.GrownBy extra (e.apply now) := by
  obtain ⟨hserver, hoverrides, f, hf, hroles⟩ := h
  refine ⟨hserver, hoverrides, e.onRole ∘ f, ⟨fun r => ?_, fun r hr p hp => ?_⟩, ?_⟩
  · show (e.onRole (f r)).id = r.id
    rw [RoleEdit.onRole, ← hf.id_eq r]
    split <;> rfl
  · have hp : p ∈ (e.onRole (f r)).permissions := hp
    rw [RoleEdit.onRole] at hp
    split at hp
    · exact Or.inr ((Mask.subset_iff_mem _ _).1 he p hp)
    · exact hf.mem r hr p hp
  · show now.roles.map e.onRole = _
    rw [hroles, List.map_map]

/-- Whoever passes the check without being an administrator gives what is held. -/
theorem permissions_subset_of_passes (h : w.GrownBy extra now) (hextra : ¬ .administrator ∈ extra)
    {e : RoleEdit} (heditor : (w.actor e.editor).serverPermissions ⊆ extra)
    (he : e.Passes now) : e.permissions ⊆ extra := by
  obtain ⟨r, -, -, hcheck⟩ := he
  have hheld : (now.actor e.editor).serverPermissions ⊆ extra := by
    have hgrown := (h.subset hextra e.editor).1
    rw [Mask.subset_iff_mem] at heditor hgrown ⊢
    intro p hp
    rcases (Mask.mem_union p _ _).1 (hgrown p hp) with hp | hp
    · exact heditor p hp
    · exact hp
  rw [Mask.subset_iff_mem] at hheld ⊢
  obtain ⟨-, -, hadmin | hnew⟩ := (checkManageRole_iff _ _ _ _).1 hcheck
  · exact absurd (hheld _ hadmin) hextra
  · intro p hp
    exact hheld p ((Mask.subset_iff_mem _ _).1 (hnew _ rfl) p hp)

/-- The run: after every prefix of authorised edits, the roles are within `extra`. -/
theorem grownBy_after {edits : List RoleEdit} (hedits : Authorised group now edits)
    (h : w.GrownBy extra now) (hextra : ¬ .administrator ∈ extra)
    (hgroup : ∀ a ∈ group, (w.actor a).serverPermissions ⊆ extra) :
    ∀ before, before <+: edits → w.GrownBy extra (now.after before) := by
  induction hedits with
  | nil now =>
    intro before hbefore
    rw [List.prefix_nil.1 hbefore]
    exact h
  | @cons now e rest hmem hpasses _ ih =>
    intro before hbefore
    rcases List.prefix_cons_iff.1 hbefore with rfl | ⟨earlier, rfl, hearlier⟩
    · exact h
    · have he := permissions_subset_of_passes h hextra (hgroup _ hmem) hpasses
      exact ih (grownBy_edit h he) earlier hearlier

theorem Realm.mem_jointPermissions (w : Realm) (group : List Member) (p : Permission) :
    p ∈ w.jointPermissions group ↔ ∃ a ∈ group, p ∈ (w.actor a).serverPermissions := by
  have hfold : ∀ m : Mask, p ∈ group.foldl (fun joint a => joint ∪ (w.actor a).serverPermissions) m
      ↔ p ∈ m ∨ ∃ a ∈ group, p ∈ (w.actor a).serverPermissions := by
    induction group with
    | nil => simp
    | cons a group ih =>
      intro m
      rw [List.foldl_cons, ih, Mask.mem_union]
      simp [or_assoc]
  rw [Realm.jointPermissions, hfold]
  simp

end

/-- **Editing roles gives nobody what the editors did not have.** After every prefix of the
edits the group may do no more than it could at first, and anyone else has gained only what
the group had, in the server and in each channel. An owner is an administrator in this
respect, so there is none in the group. -/
theorem permissions_after_edits (w : Realm) (group : List Member) (edits : List RoleEdit)
    (hadmin : ¬ .administrator ∈ w.jointPermissions group) (hedits : Authorised group w edits) :
    ∀ before, before <+: edits →
      (∀ a ∈ group,
        ((w.after before).actor a).serverPermissions ⊆ w.jointPermissions group) ∧
      ∀ m, ((w.after before).actor m).serverPermissions ⊆
          (w.actor m).serverPermissions ∪ w.jointPermissions group ∧
        ∀ c, ((w.after before).actor m).channelPermissions c ⊆
          (w.actor m).channelPermissions c ∪ w.jointPermissions group := by
  have hgroup : ∀ a ∈ group, (w.actor a).serverPermissions ⊆ w.jointPermissions group := by
    intro a ha
    rw [Mask.subset_iff_mem]
    intro p hp
    exact (w.mem_jointPermissions group p).2 ⟨a, ha, hp⟩
  intro before hbefore
  have hgrown := grownBy_after hedits (Realm.GrownBy.refl _ w) hadmin hgroup before hbefore
  refine ⟨fun a ha => ?_, fun m => hgrown.subset hadmin m⟩
  have hserver := (hgrown.subset hadmin a).1
  have hbound := hgroup a ha
  rw [Mask.subset_iff_mem] at hserver hbound ⊢
  intro p hp
  exact ((Mask.mem_union p _ _).1 (hserver p hp)).elim (hbound p) id

/-! ## A moderator, a helper and a newcomer -/

/-- Moderators manage roles and remove members; helpers and newcomers rank below them. -/
def staffedRealm : Realm :=
  ⟨⟨⟨1⟩, ⟨2⟩⟩,
   [.everyone ⟨1⟩ {.sendMessages},
    ⟨⟨5⟩, ⟨1⟩, "moderators", Mask.ofList [.manageRoles, .kickMembers], 1, false⟩,
    ⟨⟨6⟩, ⟨1⟩, "helpers", ∅, 2, false⟩,
    ⟨⟨7⟩, ⟨1⟩, "newcomers", ∅, 3, false⟩],
   []⟩

def moderator : Member := ⟨⟨10⟩, ⟨1⟩, [⟨5⟩]⟩

def helper : Member := ⟨⟨11⟩, ⟨1⟩, [⟨6⟩]⟩

/-- The moderator lets helpers manage roles, and then a helper may let newcomers do so. -/
def staffEdits : List RoleEdit :=
  [⟨moderator, ⟨6⟩, {.manageRoles}⟩, ⟨helper, ⟨7⟩, {.manageRoles}⟩]

theorem permissions_after_staffEdits :
    ¬ .administrator ∈ staffedRealm.jointPermissions [moderator, helper] ∧
    Authorised [moderator, helper] staffedRealm staffEdits ∧
    .manageRoles ∈ ((staffedRealm.after staffEdits).actor helper).serverPermissions ∧
    ((staffedRealm.after staffEdits).actor helper).serverPermissions ⊆
      staffedRealm.jointPermissions [moderator, helper] := by
  have hadmin : ¬ .administrator ∈ staffedRealm.jointPermissions [moderator, helper] := by decide
  have hedits : Authorised [moderator, helper] staffedRealm staffEdits := by
    refine .cons (by decide) ⟨_, List.mem_of_getElem? (i := 2) rfl, rfl, rfl⟩ ?_
    refine .cons (by decide) ⟨_, List.mem_of_getElem? (i := 3) rfl, rfl, rfl⟩ ?_
    exact .nil _
  have hafter := permissions_after_edits staffedRealm [moderator, helper] staffEdits hadmin hedits
    staffEdits (List.prefix_refl _)
  exact ⟨hadmin, hedits, by decide, hafter.1 helper (by decide)⟩

end Turnstile
