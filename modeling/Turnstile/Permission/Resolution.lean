import Turnstile.Permission.Denial
import Turnstile.Server

/-!
# Resolution of permissions

What a member may do in a server, or in one of its channels.

* The owner may do everything.
* Anyone else has the permissions of the default role and of every role held. Without a
  default role in the list, the held roles are all there is.
* Whoever has the administrator permission by then may do everything.
* In a channel, its overrides are applied in this order: those of the default role, those
  of each held role in the order of the role list, those of the member. Within one target
  they keep the order of the override list.
-/

namespace Turnstile

/-! ## Permissions -/

/-- The permissions of the default role, the first in the list with the server's identifier. -/
def basePermissions (roles : List Role) (server : Server) : Mask :=
  match roles.find? (·.isDefaultOf server) with
  | some r => r.permissions
  | none => ∅

def Member.heldRoles (m : Member) (roles : List Role) : List Role :=
  roles.filter fun r => m.holds r.id

/-- The permissions of the default role and of every role held. -/
def rolePermissions (member : Member) (roles : List Role) (server : Server) : Mask :=
  (member.heldRoles roles).foldl (fun m r => m ∪ r.permissions) (basePermissions roles server)

/-- A channel's overrides for one target. -/
def overridesFor (channel : Channel) (overrides : List Override) (target : Target) :
    List Override :=
  overrides.filter fun o => o.channelId == channel.id && o.target == target

/-- The overrides that concern a member in a channel, in the order of application. -/
def applicable (member : Member) (roles : List Role) (server : Server) (channel : Channel)
    (overrides : List Override) : List Override :=
  overridesFor channel overrides (.role server.id) ++
    ((member.heldRoles roles).filter fun r => !r.isDefaultOf server).flatMap
      (fun r => overridesFor channel overrides (.role r.id)) ++
    overridesFor channel overrides (.user member.userId)

/-- What a member may do, in a channel if one is given. -/
def resolve (member : Member) (roles : List Role) (server : Server) (channel : Option Channel)
    (overrides : List Override) : Mask :=
  if member.userId = server.ownerId then .all
  else
    let held := rolePermissions member roles server
    if held.isAdmin then .all
    else
      match channel with
      | none => held
      | some c => (applicable member roles server c overrides).foldl (fun m o => o.apply m) held

/-! ## Checks -/

/-- Passes if all that is required is granted. -/
def requirePermission (held required : Mask) : Except PermissionDenial Unit :=
  if held.grants required then .ok () else .error (.missing (required \ held))

theorem requirePermission_eq_ok_iff (held required : Mask) :
    requirePermission held required = .ok () ↔ .administrator ∈ held ∨ required ⊆ held := by
  rw [← Mask.grants_iff, requirePermission]
  split
  · next h => simp [h]
  · next h => simp [h]

/-- A single permission is missing as a whole. -/
theorem requirePermission_single (held : Mask) (p : Permission) :
    requirePermission held {p} =
      if .administrator ∈ held ∨ p ∈ held then .ok () else .error (.missing {p}) := by
  unfold requirePermission
  by_cases h : .administrator ∈ held ∨ p ∈ held
  · rw [if_pos h, if_pos ((Mask.grants_single_iff held p).2 h)]
  · have hp : ¬ p ∈ held := fun hp => h (Or.inr hp)
    rw [if_neg h, if_neg fun hg => h ((Mask.grants_single_iff held p).1 hg), Mask.single_sdiff hp]

/-- The rank of a member by its roles: the lowest position, or the last of all without a role. -/
def rankByRoles (member : Member) (roles : List Role) : Int32 :=
  ((member.heldRoles roles).map Role.position).foldl min Int32.maxValue

/-- Passes if an actor may change a role, giving it `new` permissions if any are named: the
actor manages roles, ranks above the role, and holds what is to be given. An administrator
may give anything. -/
def checkManageRole (held : Mask) (actorRank roleRank : Int32) (new : Option Mask) :
    Except PermissionDenial Unit := do
  requirePermission held {.manageRoles}
  if roleRank ≤ actorRank then .error (.rank actorRank roleRank)
  else if held.isAdmin then .ok ()
  else
    match new with
    | none => .ok ()
    | some new =>
      let excess := new \ held
      if excess.isEmpty then .ok () else .error (.escalation excess)

/-- Passes if an actor may remove or silence a member: never the owner, and only members of a
lower rank. -/
def checkModerate (actorRank targetRank : Int32) (targetIsOwner : Bool) :
    Except PermissionDenial Unit :=
  if targetIsOwner then .error .targetIsOwner
  else if targetRank ≤ actorRank then .error (.rank actorRank targetRank)
  else .ok ()

/-! ## Actors -/

/-- A member who acts, and what is known of the server. -/
structure Actor where
  server : Server
  member : Member
  /-- All roles of the server, the default one included. -/
  roles : List Role
  /-- The overrides of the channel acted in. -/
  overrides : List Override

namespace Actor

def userId (a : Actor) : Uuid := a.member.userId

def isOwner (a : Actor) : Bool := a.member.userId == a.server.ownerId

def serverPermissions (a : Actor) : Mask := resolve a.member a.roles a.server none []

def channelPermissions (a : Actor) (c : Channel) : Mask :=
  resolve a.member a.roles a.server (some c) a.overrides

/-- The rank of the actor: the owner's is above every position. -/
def rank (a : Actor) : Int32 :=
  if a.isOwner then Int32.minValue else rankByRoles a.member a.roles

end Actor

end Turnstile
