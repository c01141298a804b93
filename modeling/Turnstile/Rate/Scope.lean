import Turnstile.Address
import Turnstile.Rate.Action
import Turnstile.Uuid

/-!
# Counting scopes

What one counter counts: an action of a user, an action of a user in a channel, an action
from a network origin, or the last message of a user in a channel with slowmode. Each scope
has a name of its own, and the key of its counter is that name in a key space.
-/

namespace Turnstile

inductive Scope where
  | user (userId : Uuid) (action : Action)
  | channel (userId channelId : Uuid) (action : Action)
  | origin (origin : Origin) (action : Action)
  | slowmode (userId channelId : Uuid)
  deriving DecidableEq

namespace Scope

def name : Scope → String
  | .user userId action => "user:" ++ userId.text ++ ":" ++ action.name
  | .channel userId channelId action =>
    "channel:" ++ channelId.text ++ ":" ++ userId.text ++ ":" ++ action.name
  | .origin o action => "ip:" ++ o.text ++ ":" ++ action.name
  | .slowmode userId channelId => "slowmode:" ++ channelId.text ++ ":" ++ userId.text

/-- The scope of an action from an address. -/
def ofAddress (address : Address) (action : Action) : Scope := .origin address.origin action

end Scope

/-- The key of a scope in a key space. -/
def countingKey (keySpace scopeName : String) : String := keySpace ++ ":" ++ scopeName

end Turnstile
