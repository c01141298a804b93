import Turnstile.Guard

/-!
# Diagnostic text

A limiter and a guard as one line of text for logs: the name of each value, its fields by
name, text in quotes.
-/

namespace Turnstile.Diagnostics

open Turnstile.Text

/-- A value with named fields. -/
def named (name : String) (fields : List (String × String)) : String :=
  name ++ " \x7b " ++ String.intercalate ", " (fields.map fun f => f.1 ++ ": " ++ f.2) ++ " \x7d"

/-- A value with named fields and others that are not shown. -/
def namedInPart (name : String) (fields : List (String × String)) : String :=
  name ++ " \x7b " ++ String.join (fields.map fun f => f.1 ++ ": " ++ f.2 ++ ", ") ++ ".. \x7d"

def ofBool (b : Bool) : String := if b then "true" else "false"

def ofOption (s : Option String) : String :=
  match s with
  | some s => "Some(" ++ quoted s ++ ")"
  | none => "None"

def ofLimit (l : Limit) : String :=
  named "LimitConfig" [("limit", Decimal.ofNat l.requests.toNat), ("window", l.window.text)]

def ofPolicies (p : Policies) : String :=
  named "RateLimitPolicies" (Action.all.map fun a => (a.name, ofLimit (p.get a)))

def ofRateSettings (s : RateSettings) : String :=
  named "RateLimitConfig"
    [("enabled", ofBool s.enabled), ("key_prefix", quoted s.keySpace),
     ("policies", ofPolicies s.policies)]

def ofLimiter (l : Limiter) : String :=
  namedInPart "RateLimiter" [("config", ofRateSettings l.settings)]

def ofCeiling (c : Int64) : String := Decimal.ofInt c.toInt

def ofCeilings (c : Ceilings) : String :=
  named "QuotaConfig"
    [("max_storage_per_user_mb", ofCeiling c.storagePerUserMb),
     ("max_storage_per_server_mb", ofCeiling c.storagePerServerMb),
     ("max_file_size_mb", ofCeiling c.fileSizeMb),
     ("max_message_length", ofCeiling c.messageLength),
     ("max_servers_owned", ofCeiling c.serversOwned),
     ("max_servers_joined", ofCeiling c.serversJoined),
     ("max_channels_per_server", ofCeiling c.channelsPerServer),
     ("max_roles_per_server", ofCeiling c.rolesPerServer),
     ("max_members_per_server", ofCeiling c.membersPerServer),
     ("upgrade_action", ofOption c.upgradeAction)]

def ofGuard (g : Guard) : String :=
  named "ActionGuard"
    [("limiter", ofLimiter g.limiter),
     ("quotas", named "QuotaEngine" [("config", ofCeilings g.ceilings)])]

end Turnstile.Diagnostics
