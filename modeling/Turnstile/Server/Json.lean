import Turnstile.Server

/-!
# Records as JSON

Each record is written as an object with its fields in order. All fields are required on
reading, other fields are passed over, a repeated field is an error, and an array of
exactly the fields is accepted as well.
-/

namespace Turnstile

namespace Server

def toJson (s : Server) : Json := .obj [("id", s.id.toJson), ("owner_id", s.ownerId.toJson)]

def ofJson? (j : Json) : Option Server := do
  match ← j.record? ["id", "owner_id"] with
  | [id, owner] => some ⟨← Uuid.ofJson? id, ← Uuid.ofJson? owner⟩
  | _ => none

end Server

namespace Role

def toJson (r : Role) : Json := .obj
  [("id", r.id.toJson), ("server_id", r.serverId.toJson), ("name", .str r.name),
   ("permissions", r.permissions.toJson), ("position", .ofInt32 r.position),
   ("is_default", .bool r.isDefault)]

def ofJson? (j : Json) : Option Role := do
  match ← j.record? ["id", "server_id", "name", "permissions", "position", "is_default"] with
  | [id, server, name, permissions, position, isDefault] =>
    some ⟨← Uuid.ofJson? id, ← Uuid.ofJson? server, ← name.str?, ← Mask.ofJson? permissions,
      ← position.int32?, ← isDefault.bool?⟩
  | _ => none

end Role

namespace Member

def toJson (m : Member) : Json := .obj
  [("user_id", m.userId.toJson), ("server_id", m.serverId.toJson),
   ("roles", .arr (m.roles.map Uuid.toJson))]

def ofJson? (j : Json) : Option Member := do
  match ← j.record? ["user_id", "server_id", "roles"] with
  | [user, server, roles] =>
    some ⟨← Uuid.ofJson? user, ← Uuid.ofJson? server, ← (← roles.items?).mapM Uuid.ofJson?⟩
  | _ => none

end Member

namespace Channel

def toJson (c : Channel) : Json := .obj
  [("id", c.id.toJson), ("server_id", c.serverId.toJson),
   ("slowmode_secs", .ofInt64 c.slowmodeSecs)]

def ofJson? (j : Json) : Option Channel := do
  match ← j.record? ["id", "server_id", "slowmode_secs"] with
  | [id, server, secs] => some ⟨← Uuid.ofJson? id, ← Uuid.ofJson? server, ← secs.int64?⟩
  | _ => none

end Channel

namespace Target

def toJson : Target → Json
  | .role id => .obj [("type", .str "role"), ("id", id.toJson)]
  | .user id => .obj [("type", .str "user"), ("id", id.toJson)]

/-- The targets of a kind. -/
def ofKind? : String → Option (Uuid → Target)
  | "role" => some .role
  | "user" => some .user
  | _ => none

/-- The name of a kind: a text, or an object with null under the name. -/
def kindName? : Json → Option String
  | .str name => some name
  | .obj [(name, .null)] => some name
  | _ => none

/-- An array names the kind by a text only. -/
def ofJson? (j : Json) : Option Target := do
  match ← j.record? ["type", "id"] with
  | [kind, id] =>
    let name ← if j.items?.isSome then kind.str? else kindName? kind
    some ((← ofKind? name) (← Uuid.ofJson? id))
  | _ => none

end Target

namespace Override

def toJson (o : Override) : Json := .obj
  [("channel_id", o.channelId.toJson), ("target", o.target.toJson), ("allow", o.allow.toJson),
   ("deny", o.deny.toJson)]

def ofJson? (j : Json) : Option Override := do
  match ← j.record? ["channel_id", "target", "allow", "deny"] with
  | [channel, target, allow, deny] =>
    some ⟨← Uuid.ofJson? channel, ← Target.ofJson? target, ← Mask.ofJson? allow,
      ← Mask.ofJson? deny⟩
  | _ => none

end Override

end Turnstile
