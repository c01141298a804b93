import Turnstile.Text.Decimal

/-!
# Limited resources

What a quota puts a ceiling on, and the unit in which it is counted.
-/

namespace Turnstile

inductive QuotaUnit where
  | megabytes
  | characters
  | count
  deriving DecidableEq

inductive Resource where
  | userStorage
  | serverStorage
  | messageLength
  | serversOwned
  | serversJoined
  | channelsPerServer
  | rolesPerServer
  | membersPerServer
  deriving DecidableEq

namespace QuotaUnit

def name : QuotaUnit → String
  | .megabytes => "megabytes"
  | .characters => "characters"
  | .count => "count"

/-- An amount in a unit. A plain count is shown without one. -/
def amountText (u : QuotaUnit) (amount : UInt64) : String :=
  Text.Decimal.ofNat amount.toNat ++
    match u with
    | .megabytes => " MB"
    | .characters => " characters"
    | .count => ""

end QuotaUnit

namespace Resource

def all : List Resource :=
  [.userStorage, .serverStorage, .messageLength, .serversOwned, .serversJoined,
   .channelsPerServer, .rolesPerServer, .membersPerServer]

def name : Resource → String
  | .userStorage => "user_storage"
  | .serverStorage => "server_storage"
  | .messageLength => "message_length"
  | .serversOwned => "servers_owned"
  | .serversJoined => "servers_joined"
  | .channelsPerServer => "channels_per_server"
  | .rolesPerServer => "roles_per_server"
  | .membersPerServer => "members_per_server"

def unit : Resource → QuotaUnit
  | .userStorage | .serverStorage => .megabytes
  | .messageLength => .characters
  | _ => .count

/-- What a client reads a resource called. -/
def description : Resource → String
  | .userStorage => "Storage"
  | .serverStorage => "Server storage"
  | .messageLength => "Message length"
  | .serversOwned => "Owned servers"
  | .serversJoined => "Joined servers"
  | .channelsPerServer => "Channels"
  | .rolesPerServer => "Roles"
  | .membersPerServer => "Members"

def ofName? (s : String) : Option Resource := all.find? fun r => r.name == s

theorem ofName?_name (r : Resource) : ofName? r.name = some r := by cases r <;> rfl

end Resource

end Turnstile
