import Turnstile.Environment
import Turnstile.Quota.Ceilings
import Turnstile.Rate.Policies

/-!
# Settings

What a service is started with, read from the environment. Each setting has a variable of
its own and a default. A value that cannot be read leaves the default in place, except
for the timeout of the store, where it is an error.
-/

namespace Turnstile

open Turnstile.Text

structure Settings where
  redisUrl : String := "redis://localhost:6379"
  /-- How long an answer of the store is waited for. -/
  storeTimeout : Duration := .ofMillis 250
  rate : RateSettings := {}
  ceilings : Ceilings := {}

/-- Why a service does not start. -/
inductive StartupFault where
  | timeoutNotANumber (value : String)
  /-- The counting store cannot be connected. -/
  | noStore
  /-- Something else takes the diagnostics of the process already. -/
  | diagnosticsTaken
  deriving DecidableEq

namespace StartupFault

def message : StartupFault → String
  | .timeoutNotANumber value => "COUNTING_STORE_TIMEOUT_MS is not a number: " ++ value
  | .noStore => "Failed to connect counting store"
  | .diagnosticsTaken =>
    "failed to install tracing subscriber: a global default trace dispatcher has already been set"

end StartupFault

/-! ## Rate limits -/

/-- Counting is on unless it is turned off in so many letters. -/
def readEnabled (value : String) : Bool := trimmed value != "false"

/-- A key space without the blanks around it, if anything is left. -/
def readKeySpace? (value : String) : Option String :=
  let s := trimmed value
  if s.isEmpty then none else some s

/-- The limit of an action: the one defined for it, or the default. -/
def loadLimit (e : Environment) (action : Action) : Limit :=
  match (e.get? action.settingName).map Limit.read with
  | some (.ok limit) => limit
  | _ => ({} : Policies).get action

def RateSettings.load (e : Environment) : RateSettings where
  enabled := ((e.get? "RATE_LIMIT_ENABLED").map readEnabled).getD true
  keySpace := ((e.get? "RATE_LIMIT_PREFIX").bind readKeySpace?).getD "ratelimit"
  policies := .ofFn (loadLimit e)

/-! ## Quotas -/

/-- A profile by its name, in letters of either case. -/
def QuotaProfile.read (value : String) : QuotaProfile :=
  if (trim value.toList).map Char.toLower = "unlimited".toList then .unlimited else .standard

/-- A ceiling: the one in the variable, or the profile's. -/
def loadCeiling (e : Environment) (name : String) (profile : Int64) : Int64 :=
  ((e.get? name).bind fun value => Decimal.readInt64? (trim value.toList)).getD profile

/-- A hint that is not blank, as it was written. -/
def readUpgrade? (value : String) : Option String :=
  if (trim value.toList).isEmpty then none else some value

def Ceilings.load (e : Environment) : Ceilings :=
  let base := Ceilings.ofProfile (((e.get? "QUOTA_PROFILE").map QuotaProfile.read).getD .standard)
  { storagePerUserMb := loadCeiling e "QUOTA_MAX_STORAGE_PER_USER_MB" base.storagePerUserMb
    storagePerServerMb := loadCeiling e "QUOTA_MAX_STORAGE_PER_SERVER_MB" base.storagePerServerMb
    fileSizeMb := loadCeiling e "QUOTA_MAX_FILE_SIZE_MB" base.fileSizeMb
    messageLength := loadCeiling e "QUOTA_MAX_MESSAGE_LENGTH" base.messageLength
    serversOwned := loadCeiling e "QUOTA_MAX_SERVERS_OWNED" base.serversOwned
    serversJoined := loadCeiling e "QUOTA_MAX_SERVERS_JOINED" base.serversJoined
    channelsPerServer := loadCeiling e "QUOTA_MAX_CHANNELS_PER_SERVER" base.channelsPerServer
    rolesPerServer := loadCeiling e "QUOTA_MAX_ROLES_PER_SERVER" base.rolesPerServer
    membersPerServer := loadCeiling e "QUOTA_MAX_MEMBERS_PER_SERVER" base.membersPerServer
    upgradeAction := (e.get? "QUOTA_UPGRADE_ACTION").bind readUpgrade? }

/-! ## All settings -/

def readTimeout (value : String) : Except StartupFault Duration :=
  match Decimal.readUInt64? (trim value.toList) with
  | some ms => .ok (.ofMillis ms)
  | none => .error (.timeoutNotANumber value)

def Settings.load (e : Environment) : Except StartupFault Settings := do
  let storeTimeout ← match e.get? "COUNTING_STORE_TIMEOUT_MS" with
    | some value => readTimeout value
    | none => .ok ({} : Settings).storeTimeout
  return {
    redisUrl := (e.get? "REDIS_URL").getD ({} : Settings).redisUrl
    storeTimeout
    rate := .load e
    ceilings := .load e }

end Turnstile
