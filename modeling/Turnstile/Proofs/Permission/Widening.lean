import Mathlib.Data.List.Forall2
import Turnstile.Proofs.Permission.Precedence

/-!
# Wider roles and overrides

Nobody loses a permission when roles are given more, or when overrides allow more or deny
less. In the server as a whole nobody loses one by more roles either, whether they are given
to the member or put at the end of the role list. In a channel one may, since each role comes
with the overrides for it.

    a wider override leaves no less of a wider mask                            (apply_widened)
    wider lists of overrides leave no less, applied one after the other        (foldl_apply_widened)
    the overrides that concern a member become wider ones                      (applicable_widened)
    what resolution takes from the roles and overrides has grown → so has the answer
                                                                               (resolve_subset)
-/

namespace Turnstile

/-! ## What becomes wider -/

/-- The same role with no fewer permissions. -/
structure Role.Widened (r r' : Role) : Prop where
  id_eq : r'.id = r.id
  permissions : r.permissions ⊆ r'.permissions

/-- The same override, allowing no less and denying no more. -/
structure Override.Widened (o o' : Override) : Prop where
  channelId_eq : o'.channelId = o.channelId
  target_eq : o'.target = o.target
  allow : o.allow ⊆ o'.allow
  deny : o'.deny ⊆ o.deny

/-- Whoever comes to hold `now` instead of `held` holds what was held, and meets every
requirement that was met. -/
structure Mask.KeptBy (held now : Mask) : Prop where
  subset : held ⊆ now
  passes : ∀ required, requirePermission held required = .ok () →
    requirePermission now required = .ok ()

/-! ## The check -/

theorem Mask.keptBy_of_subset {held now : Mask} (h : held ⊆ now) : held.KeptBy now := by
  refine ⟨h, fun required hrequired => ?_⟩
  rw [requirePermission_eq_ok_iff] at hrequired ⊢
  rw [Mask.subset_iff_mem] at h
  refine hrequired.imp (h _) fun hsub => ?_
  rw [Mask.subset_iff_mem] at hsub ⊢
  exact fun p hp => h p (hsub p hp)

/-! ## Overrides -/

theorem apply_widened {o o' : Override} (ho : o.Widened o') {a b : Mask} (h : a ⊆ b) :
    o.apply a ⊆ o'.apply b := by
  have hallow := (Mask.subset_iff_mem _ _).1 ho.allow
  have hdeny := (Mask.subset_iff_mem _ _).1 ho.deny
  rw [Mask.subset_iff_mem] at h ⊢
  intro p hp
  rw [Override.mem_apply] at hp ⊢
  rcases hp with ⟨hmem, hnot⟩ | hp
  · exact Or.inl ⟨h p hmem, fun hp => hnot (hdeny p hp)⟩
  · exact Or.inr (hallow p hp)

theorem foldl_apply_widened {os os' : List Override} (hos : List.Forall₂ Override.Widened os os')
    {a b : Mask} (h : a ⊆ b) :
    os.foldl (fun m o => o.apply m) a ⊆ os'.foldl (fun m o => o.apply m) b := by
  induction hos generalizing a b with
  | nil => exact h
  | cons ho _ ih => exact ih (apply_widened ho h)

theorem overridesFor_widened {os os' : List Override}
    (hos : List.Forall₂ Override.Widened os os') (c : Channel) (target : Target) :
    List.Forall₂ Override.Widened (overridesFor c os target) (overridesFor c os' target) := by
  refine List.rel_filter (fun o o' ho => ?_) hos
  simp only [ho.channelId_eq, ho.target_eq]

/-! ## Roles -/

section
variable {roles roles' : List Role} (hroles : List.Forall₂ Role.Widened roles roles')
  (member : Member) (server : Server)
include hroles

theorem heldRoles_widened :
    List.Forall₂ Role.Widened (member.heldRoles roles) (member.heldRoles roles') := by
  refine List.rel_filter (fun r r' hr => ?_) hroles
  simp only [hr.id_eq]

theorem basePermissions_widened : basePermissions roles server ⊆ basePermissions roles' server := by
  induction hroles with
  | nil => exact (Mask.subset_iff_mem _ _).2 fun _ hp => hp
  | @cons r r' roles roles' hr _ ih =>
    have hsame : r'.isDefaultOf server = r.isDefaultOf server := by
      rw [Role.isDefaultOf, Role.isDefaultOf, hr.id_eq]
    unfold basePermissions at ih ⊢
    rw [List.find?_cons, List.find?_cons, hsame]
    cases r.isDefaultOf server with
    | true => exact hr.permissions
    | false => exact ih

theorem rolePermissions_widened :
    rolePermissions member roles server ⊆ rolePermissions member roles' server := by
  refine List.rel_foldl (P := fun a b : Mask => a ⊆ b) ?_ (basePermissions_widened hroles server)
    (heldRoles_widened hroles member)
  intro a b hab r r' hr
  have hpermissions := (Mask.subset_iff_mem _ _).1 hr.permissions
  rw [Mask.subset_iff_mem] at hab ⊢
  intro p hp
  rw [Mask.mem_union] at hp ⊢
  exact hp.imp (hab p) (hpermissions p)

theorem applicable_widened {os os' : List Override} (hos : List.Forall₂ Override.Widened os os')
    (c : Channel) :
    List.Forall₂ Override.Widened (applicable member roles server c os)
      (applicable member roles' server c os') := by
  have hothers : List.Forall₂ Role.Widened
      ((member.heldRoles roles).filter fun r => !r.isDefaultOf server)
      ((member.heldRoles roles').filter fun r => !r.isDefaultOf server) := by
    refine List.rel_filter (fun r r' hr => ?_) (heldRoles_widened hroles member)
    simp only [Role.isDefaultOf, hr.id_eq]
  have hfor : ∀ r r' : Role, r.Widened r' → List.Forall₂ Override.Widened
      (overridesFor c os (.role r.id)) (overridesFor c os' (.role r'.id)) := by
    intro r r' hr
    rw [hr.id_eq]
    exact overridesFor_widened hos c _
  exact List.rel_append
    (List.rel_append (overridesFor_widened hos c _) (List.rel_flatMap hothers hfor))
    (overridesFor_widened hos c _)

end

/-! ## More roles -/

theorem inUnion_append {member : Member} {ids : List Uuid} (hids : member.roles ⊆ ids)
    {roles : List Role} {server : Server} {p : Permission} (more : List Role)
    (h : InUnion member roles server p) :
    InUnion { member with roles := ids } (roles ++ more) server p := by
  rcases h with ⟨r, hfind, hp⟩ | ⟨r, hr, hheld, hp⟩
  · refine Or.inl ⟨r, ?_, hp⟩
    rw [List.find?_append, hfind, Option.some_or]
  · exact Or.inr ⟨r, List.mem_append_left _ hr, hids hheld, hp⟩

/-! ## Resolution -/

/-- With more to start from and overrides that keep it so, resolution gives more. The case in
between is a member who becomes an administrator and to whom no override applies any more. -/
theorem resolve_subset {member member' : Member} {roles roles' : List Role} {server : Server}
    {overrides overrides' : List Override} (channel : Option Channel)
    (huser : member'.userId = member.userId)
    (hunion : rolePermissions member roles server ⊆ rolePermissions member' roles' server)
    (hchannel : ∀ c, channel = some c →
      (applicable member roles server c overrides).foldl (fun m o => o.apply m)
          (rolePermissions member roles server) ⊆
        (applicable member' roles' server c overrides').foldl (fun m o => o.apply m)
          (rolePermissions member' roles' server)) :
    resolve member roles server channel overrides ⊆
      resolve member' roles' server channel overrides' := by
  by_cases hall' : member'.userId = server.ownerId ∨ InUnion member' roles' server .administrator
  · rw [resolve_of_all _ _ _ _ channel hall', Mask.subset_iff_mem]
    exact fun p _ => Mask.mem_all p
  · have hall : ¬ (member.userId = server.ownerId ∨
        InUnion member roles server .administrator) := by
      rintro (howner | hadmin)
      · exact hall' (Or.inl (huser.trans howner))
      · rw [← mem_rolePermissions] at hadmin
        refine hall' (Or.inr ?_)
        rw [← mem_rolePermissions]
        exact (Mask.subset_iff_mem _ _).1 hunion _ hadmin
    rw [resolve_of_not_all _ _ _ _ channel hall, resolve_of_not_all _ _ _ _ channel hall']
    cases channel with
    | none => exact hunion
    | some c => exact hchannel c rfl

/-- **Resolution is monotone.** Roles with more permissions and overrides that allow more or
deny less never take a permission away, in the server or in a channel. In the server, neither
does another role, given to the member or put at the end of the list. So what was allowed is
allowed still. -/
theorem resolve_widened (member : Member) (roles : List Role) (server : Server)
    (overrides : List Override) :
    (∀ channel roles' overrides', List.Forall₂ Role.Widened roles roles' →
      List.Forall₂ Override.Widened overrides overrides' →
      (resolve member roles server channel overrides).KeptBy
        (resolve member roles' server channel overrides')) ∧
    ∀ ids more overrides', member.roles ⊆ ids →
      (resolve member roles server none overrides).KeptBy
        (resolve { member with roles := ids } (roles ++ more) server none overrides') := by
  constructor
  · intro channel roles' overrides' hroles hoverrides
    have hunion := rolePermissions_widened hroles member server
    refine Mask.keptBy_of_subset (resolve_subset channel rfl hunion fun c _ => ?_)
    exact foldl_apply_widened (applicable_widened hroles member server hoverrides c) hunion
  · intro ids more overrides' hids
    refine Mask.keptBy_of_subset (resolve_subset none rfl ?_ nofun)
    rw [Mask.subset_iff_mem]
    intro p hp
    rw [mem_rolePermissions] at hp ⊢
    exact inUnion_append hids more hp

/-! ## A plain member, given more -/

def heralds : Role := ⟨⟨5⟩, ⟨1⟩, "heralds", {.mentionEveryone}, 3, false⟩

/-- In a channel where heralds may not send messages, becoming one takes that away. -/
example :
    .sendMessages ∈ resolve plainMember (heralds :: plainRoles) plainServer (some plainChannel)
      [⟨⟨4⟩, .role ⟨5⟩, ∅, {.sendMessages}⟩] ∧
    ¬ .sendMessages ∈ resolve { plainMember with roles := [⟨5⟩] } (heralds :: plainRoles)
      plainServer (some plainChannel) [⟨⟨4⟩, .role ⟨5⟩, ∅, {.sendMessages}⟩] := by
  decide

/-- Everyone an administrator. -/
def raisedRoles : List Role := [.everyone ⟨1⟩ (.everyoneDefault ∪ {.administrator})]

theorem widened_raisedRoles : List.Forall₂ Role.Widened plainRoles raisedRoles :=
  .cons ⟨rfl, by decide⟩ .nil

/-- The muted member keeps everything as an administrator, and as a herald. -/
theorem resolve_raised :
    List.Forall₂ Role.Widened plainRoles raisedRoles ∧
    List.Forall₂ Override.Widened [mute] [{ mute with allow := {.addReactions} }] ∧
    (resolve plainMember plainRoles plainServer (some plainChannel) [mute]).KeptBy
      (resolve plainMember raisedRoles plainServer (some plainChannel)
        [{ mute with allow := {.addReactions} }]) ∧
    plainMember.roles ⊆ [⟨5⟩] ∧
    (resolve plainMember plainRoles plainServer none [mute]).KeptBy
      (resolve { plainMember with roles := [⟨5⟩] } (plainRoles ++ [heralds]) plainServer none
        []) := by
  have hmute : List.Forall₂ Override.Widened [mute] [{ mute with allow := {.addReactions} }] :=
    .cons ⟨rfl, rfl, by decide, by decide⟩ .nil
  have hids : plainMember.roles ⊆ [⟨5⟩] := List.nil_subset _
  obtain ⟨hwider, hmore⟩ := resolve_widened plainMember plainRoles plainServer [mute]
  exact ⟨widened_raisedRoles, hmute, hwider _ _ _ widened_raisedRoles hmute, hids, hmore _ _ _ hids⟩

end Turnstile
