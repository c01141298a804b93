import Turnstile.Permission.Mask
import Turnstile.Uuid

/-!
# Servers, roles, members and channels

The records from which permissions are resolved. They are read for one request and
never changed by it.

A server's default role has the server's own identifier, and every member holds it
without listing it. A lower position is a higher rank.
-/

namespace Turnstile

/-- A server. Its owner stands above all roles. -/
structure Server where
  id : Uuid
  ownerId : Uuid
  deriving DecidableEq

structure Role where
  id : Uuid
  serverId : Uuid
  name : String
  permissions : Mask
  position : Int32
  isDefault : Bool
  deriving DecidableEq

/-- A user's membership of a server, with the roles given to the user. -/
structure Member where
  userId : Uuid
  serverId : Uuid
  roles : List Uuid
  deriving DecidableEq

structure Channel where
  id : Uuid
  serverId : Uuid
  /-- Seconds between two messages of one user; none are required if not positive. -/
  slowmodeSecs : Int64
  deriving DecidableEq

/-- Whom a channel override concerns. -/
inductive Target where
  | role (id : Uuid)
  | user (id : Uuid)
  deriving DecidableEq

/-- A change of permissions within one channel. -/
structure Override where
  channelId : Uuid
  target : Target
  allow : Mask
  deny : Mask
  deriving DecidableEq

namespace Role

/-- The default role of a new server. It ranks below every other role. -/
def everyone (serverId : Uuid) (permissions : Mask) : Role :=
  ⟨serverId, serverId, "@everyone", permissions, Int32.maxValue, true⟩

def isDefaultOf (r : Role) (s : Server) : Bool := r.id == s.id

end Role

namespace Member

def holds (m : Member) (roleId : Uuid) : Bool := m.roles.contains roleId

end Member

namespace Override

/-- Denied permissions are taken away first, so what is allowed wins. -/
def apply (o : Override) (m : Mask) : Mask := (m \ o.deny) ∪ o.allow

/-- Whether a permission is both allowed and denied. -/
def conflicts (o : Override) : Bool := o.allow.overlaps o.deny

@[simp] theorem mem_apply (p : Permission) (o : Override) (m : Mask) :
    p ∈ o.apply m ↔ (p ∈ m ∧ ¬ p ∈ o.deny) ∨ p ∈ o.allow := by
  rw [apply, Mask.mem_union, Mask.mem_sdiff]

end Override

end Turnstile
