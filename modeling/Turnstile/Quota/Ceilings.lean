import Turnstile.Json
import Turnstile.Quota.Resource

/-!
# Ceilings

The largest amount of each resource. A ceiling that is not positive is none.
-/

namespace Turnstile

structure Ceilings where
  storagePerUserMb : Int64 := 500
  storagePerServerMb : Int64 := 5120
  fileSizeMb : Int64 := 25
  messageLength : Int64 := 2000
  serversOwned : Int64 := 10
  serversJoined : Int64 := 100
  channelsPerServer : Int64 := 500
  rolesPerServer : Int64 := 250
  membersPerServer : Int64 := 10000
  /-- Shown to a client when a ceiling could be raised. -/
  upgradeAction : Option String := none
  deriving DecidableEq

/-- A named set of ceilings to start from. -/
inductive QuotaProfile where
  | standard
  | unlimited
  deriving DecidableEq

/-- Whether a configured ceiling is none. -/
def isUnlimited (ceiling : Int64) : Bool := ceiling ≤ 0

namespace Ceilings

def unlimited : Ceilings := ⟨0, 0, 0, 0, 0, 0, 0, 0, 0, none⟩

def ofProfile : QuotaProfile → Ceilings
  | .standard => {}
  | .unlimited => unlimited

/-- The configured ceiling of a resource. -/
def get (c : Ceilings) : Resource → Int64
  | .userStorage => c.storagePerUserMb
  | .serverStorage => c.storagePerServerMb
  | .messageLength => c.messageLength
  | .serversOwned => c.serversOwned
  | .serversJoined => c.serversJoined
  | .channelsPerServer => c.channelsPerServer
  | .rolesPerServer => c.rolesPerServer
  | .membersPerServer => c.membersPerServer

/-- The amount that a ceiling allows, if it is one. -/
def amount? (ceiling : Int64) : Option UInt64 :=
  if isUnlimited ceiling then none else some ceiling.toUInt64

def limit? (c : Ceilings) (r : Resource) : Option UInt64 := amount? (c.get r)

def toJson (c : Ceilings) : Json := .obj
  [("max_storage_per_user_mb", .ofInt64 c.storagePerUserMb),
   ("max_storage_per_server_mb", .ofInt64 c.storagePerServerMb),
   ("max_file_size_mb", .ofInt64 c.fileSizeMb),
   ("max_message_length", .ofInt64 c.messageLength),
   ("max_servers_owned", .ofInt64 c.serversOwned),
   ("max_servers_joined", .ofInt64 c.serversJoined),
   ("max_channels_per_server", .ofInt64 c.channelsPerServer),
   ("max_roles_per_server", .ofInt64 c.rolesPerServer),
   ("max_members_per_server", .ofInt64 c.membersPerServer),
   ("upgrade_action", .ofOption .str c.upgradeAction)]

end Ceilings

end Turnstile
