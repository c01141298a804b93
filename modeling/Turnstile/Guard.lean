import Turnstile.Permission.Resolution
import Turnstile.Quota.Check
import Turnstile.Rate.Limiter

/-!
# The guard

Every action passes the same gates in the same order: permission, rate limit (with slowmode
for messages), quota. The first denial is the answer, and nothing is asked of the store
after it. An action without permission is therefore never counted against anyone.
-/

namespace Turnstile

inductive AccessDenial where
  | permission (denial : PermissionDenial)
  | quota (denial : QuotaDenial)
  deriving DecidableEq

namespace AccessDenial

def message : AccessDenial → String
  | .permission d => d.message
  | .quota d => d.message

def response : AccessDenial → Response
  | .permission d => d.response
  | .quota d => d.response

end AccessDenial

/-- A computation on a counting store that may end in a denial. -/
abbrev Access := ExceptT AccessDenial Counting

namespace Access

/-- A gate that needs no store. -/
def gate {α : Type} (x : Except AccessDenial α) : Access α := ExceptT.mk (.done x)

/-- A gate that counts. -/
def counted (x : Limiter.Verdict) : Access Unit :=
  ExceptT.mk ((fun r => r.mapError .quota) <$> x)

def quota (x : Except QuotaDenial Unit) : Access Unit := gate (x.mapError .quota)

end Access

/-- Passes with the actor's permissions if they grant what is required, in a channel if one
is given. Member and channel have to belong to the actor's server. -/
def Actor.authorize (a : Actor) (channel : Option Channel) (required : Mask) :
    Except AccessDenial Mask :=
  if a.member.serverId ≠ a.server.id then .error (.permission .notAMember)
  else if channel.any fun c => c.serverId != a.server.id then .error (.permission .notAMember)
  else
    let held := match channel with
      | some c => a.channelPermissions c
      | none => a.serverPermissions
    match requirePermission held required with
    | .ok () => .ok held
    | .error d => .error (.permission d)

/-- Bytes in use before an upload. -/
structure StorageUse where
  userBytes : UInt64 := 0
  serverBytes : UInt64 := 0

structure Guard where
  limiter : Limiter
  ceilings : Ceilings

namespace Guard

/-- Counts an action in a scope, against the policy of the action. -/
def count (g : Guard) (scope : Scope) (action : Action) : Access Unit :=
  Access.counted (g.limiter.checkScope scope (g.limiter.policy action))

def countUser (g : Guard) (userId : Uuid) (action : Action) : Access Unit :=
  g.count (.user userId action) action

/-! ## Actions in a channel -/

/-- Sending a message. Whoever manages messages is not held up by slowmode. The length is
checked last, so a message that is too long starts the interval as well. -/
def sendMessage (g : Guard) (a : Actor) (c : Channel) (content : String) : Access Unit := do
  let held ← Access.gate (a.authorize (some c) {.sendMessages})
  g.count (.channel a.userId c.id .messageSend) .messageSend
  unless held.grants {.manageMessages} do
    Access.counted (g.limiter.checkSlowmode a.userId c.id c.slowmodeSecs)
  Access.quota (g.ceilings.checkLength content)

/-- Editing a message of one's own. -/
def editMessage (g : Guard) (a : Actor) (c : Channel) (content : String) : Access Unit := do
  let _ ← Access.gate (a.authorize (some c) {.sendMessages})
  g.countUser a.userId .messageEdit
  Access.quota (g.ceilings.checkLength content)

def addReaction (g : Guard) (a : Actor) (c : Channel) : Access Unit := do
  let _ ← Access.gate (a.authorize (some c) {.addReactions})
  g.countUser a.userId .reaction

/-- Attaching a file of so many bytes. -/
def upload (g : Guard) (a : Actor) (c : Channel) (bytes : UInt64) (inUse : StorageUse) :
    Access Unit := do
  let _ ← Access.gate (a.authorize (some c) {.attachFiles})
  g.countUser a.userId .upload
  Access.quota (g.ceilings.checkFileSize bytes)
  Access.quota (g.ceilings.checkUserStorage inUse.userBytes bytes)
  Access.quota (g.ceilings.checkServerStorage inUse.serverBytes bytes)

/-! ## Actions outside a channel -/

def createInvite (g : Guard) (a : Actor) : Access Unit := do
  let _ ← Access.gate (a.authorize none {.createInvite})
  g.countUser a.userId .inviteCreate

/-- Creating a server, of which no one is a member yet. -/
def createServer (g : Guard) (userId : Uuid) (serversOwned : UInt64) : Access Unit := do
  g.countUser userId .serverCreate
  Access.quota (g.ceilings.checkCount .serversOwned serversOwned)

/-- Logging in or registering, from an address. -/
def attemptAuth (g : Guard) (address : Address) : Access Unit :=
  g.count (.ofAddress address .auth) .auth

/-- Any call with a user behind it. -/
def callApi (g : Guard) (userId : Uuid) : Access Unit := g.countUser userId .api

end Guard

end Turnstile
