import Turnstile.Proofs.Rate.Definitions
import Turnstile.Settings

/-!
# Settings, one by one

What each setting is, said without a loader: it is what its own variable spells, or else its
default, and the default of a ceiling is that of the profile. So no variable has a say in any
setting but its own, and a limiter can always be used.

    f.get s = ((e.get? f.source).bind f.read?).getD (the default)        (get_eq)
    f.read? v = some a ↔ f.Spells v a                                    (read?_eq_some_iff)
    every setting is chosen by its own variable, whatever the others are (load_by_field)
-/

namespace Turnstile

open Turnstile.Text Turnstile.Text.Decimal

/-- A name in capitals, as variables are named. -/
def capitals (s : String) : String := String.ofList (s.toList.map Char.toUpper)

/-- The ceilings that can be set. -/
inductive Ceiling where
  | storagePerUser
  | storagePerServer
  | fileSize
  | messageLength
  | serversOwned
  | serversJoined
  | channelsPerServer
  | rolesPerServer
  | membersPerServer
  deriving DecidableEq

namespace Ceiling

/-- The name under which a ceiling is shown. -/
def name : Ceiling → String
  | .storagePerUser => "max_storage_per_user_mb"
  | .storagePerServer => "max_storage_per_server_mb"
  | .fileSize => "max_file_size_mb"
  | .messageLength => "max_message_length"
  | .serversOwned => "max_servers_owned"
  | .serversJoined => "max_servers_joined"
  | .channelsPerServer => "max_channels_per_server"
  | .rolesPerServer => "max_roles_per_server"
  | .membersPerServer => "max_members_per_server"

def of (c : Ceilings) : Ceiling → Int64
  | .storagePerUser => c.storagePerUserMb
  | .storagePerServer => c.storagePerServerMb
  | .fileSize => c.fileSizeMb
  | .messageLength => c.messageLength
  | .serversOwned => c.serversOwned
  | .serversJoined => c.serversJoined
  | .channelsPerServer => c.channelsPerServer
  | .rolesPerServer => c.rolesPerServer
  | .membersPerServer => c.membersPerServer

end Ceiling

/-- A limit that lets something pass: a request at least, in a whole number of seconds. -/
def Limit.IsUsable (l : Limit) : Prop :=
  1 ≤ l.requests.toNat ∧ ∃ secs : UInt64, 1 ≤ secs.toNat ∧ l.window = .ofSecs secs

/-! ## Settings -/

inductive Setting where
  | redisUrl
  | storeTimeout
  | enabled
  | keySpace
  | policy (action : Action)
  | ceiling (c : Ceiling)
  | upgradeAction

/-- A profile is spelled by its name, in letters of either case. -/
def QuotaProfile.Spells (value : String) (p : QuotaProfile) : Prop :=
  (trim value.toList).map Char.toLower = "unlimited".toList ∧ p = .unlimited

namespace Setting

abbrev Value : Setting → Type
  | .redisUrl => String
  | .storeTimeout => Duration
  | .enabled => Bool
  | .keySpace => String
  | .policy _ => Limit
  | .ceiling _ => Int64
  | .upgradeAction => Option String

/-- The variable of a setting. -/
def source : Setting → String
  | .redisUrl => "REDIS_URL"
  | .storeTimeout => "COUNTING_STORE_TIMEOUT_MS"
  | .enabled => "RATE_LIMIT_ENABLED"
  | .keySpace => "RATE_LIMIT_PREFIX"
  | .policy action => "RATE_LIMIT_" ++ capitals action.name
  | .ceiling c => "QUOTA_" ++ capitals c.name
  | .upgradeAction => "QUOTA_UPGRADE_ACTION"

/-- All variables that a setting depends on. -/
def sources : Setting → List String
  | .ceiling c => ["QUOTA_PROFILE", (Setting.ceiling c).source]
  | f => [f.source]

/-- The value of a setting that was loaded. -/
def get (s : Settings) : (f : Setting) → f.Value
  | .redisUrl => s.redisUrl
  | .storeTimeout => s.storeTimeout
  | .enabled => s.rate.enabled
  | .keySpace => s.rate.keySpace
  | .policy action => s.rate.policies.get action
  | .ceiling c => c.of s.ceilings
  | .upgradeAction => s.ceilings.upgradeAction

/-- What is taken if the variable spells nothing. -/
def default (p : QuotaProfile) : (f : Setting) → f.Value
  | .redisUrl => "redis://localhost:6379"
  | .storeTimeout => .ofMillis 250
  | .enabled => true
  | .keySpace => "ratelimit"
  | .policy action => ({} : Policies).get action
  | .ceiling c => c.of (.ofProfile p)
  | .upgradeAction => none

/-- The text spells the value of a setting. -/
def Spells : (f : Setting) → String → f.Value → Prop
  | .redisUrl, v, url => url = v
  | .storeTimeout, v, timeout => ∃ ms : UInt64, Unsigned (trim v.toList) ms.toNat ∧
      timeout = Duration.ofMillis ms
  | .enabled, v, on => trimmed v = "false" ∧ on = false
  | .keySpace, v, name => name = trimmed v ∧ trim v.toList ≠ []
  | .policy _, v, limit => ∃ requests secs, Limit.Spells v.toList requests secs ∧
      requests ≠ 0 ∧ secs ≠ 0 ∧ limit = Limit.perSeconds requests secs
  | .ceiling _, v, i => Signed (trim v.toList) (Int64.toInt i)
  | .upgradeAction, v, hint => trim v.toList ≠ [] ∧ hint = some v

/-- The value that a text spells, if it spells one. -/
def read? : (f : Setting) → String → Option f.Value
  | .redisUrl, v => some v
  | .storeTimeout, v => (readUInt64? (trim v.toList)).map Duration.ofMillis
  | .enabled, v => if readEnabled v then none else some false
  | .keySpace, v => readKeySpace? v
  | .policy _, v => (Limit.read v).toOption
  | .ceiling _, v => readInt64? (trim v.toList)
  | .upgradeAction, v => (readUpgrade? v).map some

end Setting

/-- What is chosen for a setting: the value that its variable spells, or the default if it is
not set or spells none. -/
inductive Chosen {α : Type} (Spells : String → α → Prop) (default : α) : Option String → α → Prop
  | spelled {v : String} {a : α} : Spells v a → Chosen Spells default (some v) a
  | unspelled {o : Option String} : (∀ v a, o = some v → ¬ Spells v a) →
      Chosen Spells default o default

/-- The profile that the environment names. -/
def Environment.profile (e : Environment) : QuotaProfile :=
  ((e.get? "QUOTA_PROFILE").map QuotaProfile.read).getD .standard

/-! ## Lemmas -/

theorem chosen_of_read {α : Type} {Spells : String → α → Prop} {read? : String → Option α}
    (hread : ∀ v a, read? v = some a ↔ Spells v a) (default : α) (o : Option String) :
    Chosen Spells default o ((o.bind read?).getD default) := by
  cases o with
  | none => exact .unspelled fun v a h => nomatch h
  | some v =>
    cases hv : read? v with
    | none =>
      rw [Option.bind_some, hv]
      refine .unspelled fun v' a h hspells => ?_
      cases h
      rw [(hread v a).2 hspells] at hv
      cases hv
    | some a =>
      rw [Option.bind_some, hv]
      exact .spelled ((hread v a).1 hv)

theorem Chosen.elim {α : Type} {Spells : String → α → Prop} {default a : α} {o : Option String}
    {P : α → Prop} (h : Chosen Spells default o a) (hspelled : ∀ v a, Spells v a → P a)
    (hdefault : P default) : P a := by
  cases h with
  | spelled hspells => exact hspelled _ _ hspells
  | unspelled => exact hdefault

theorem toList_trimmed (s : String) : (trimmed s).toList = trim s.toList := by
  rw [trimmed, String.toList_ofList]

theorem isEmpty_trimmed (s : String) : (trimmed s).isEmpty = true ↔ trim s.toList = [] := by
  rw [String.isEmpty_iff, ← String.toList_inj, toList_trimmed]
  rfl

namespace Setting

theorem read?_eq_some_iff (f : Setting) (v : String) (a : f.Value) :
    f.read? v = some a ↔ f.Spells v a := by
  cases f with
  | redisUrl =>
    show some v = some a ↔ a = v
    rw [Option.some.injEq, eq_comm]
  | storeTimeout =>
    show (readUInt64? (trim v.toList)).map Duration.ofMillis = some a ↔ _
    simp only [Option.map_eq_some_iff, readUInt64?_eq_some_iff]
    constructor
    · rintro ⟨ms, h, rfl⟩
      exact ⟨ms, h, rfl⟩
    · rintro ⟨ms, h, rfl⟩
      exact ⟨ms, h, rfl⟩
  | enabled =>
    show (if readEnabled v then none else some false) = some a ↔ trimmed v = "false" ∧ a = false
    by_cases hoff : trimmed v = "false"
    · simp [readEnabled, hoff, eq_comm]
    · simp [readEnabled, hoff]
  | keySpace =>
    show readKeySpace? v = some a ↔ a = trimmed v ∧ trim v.toList ≠ []
    rw [readKeySpace?, ne_eq, ← isEmpty_trimmed]
    split
    · next hempty => simp [hempty]
    · next hempty => simp [hempty, eq_comm]
  | policy action =>
    show (Limit.read v).toOption = some a ↔ _
    have hread : (Limit.read v).toOption = some a ↔ Limit.read v = .ok a := by
      cases Limit.read v <;> simp [Except.toOption]
    rw [hread]
    exact Limit.read_eq_ok_iff v a
  | ceiling c => exact readInt64?_eq_some_iff _ _
  | upgradeAction =>
    show (readUpgrade? v).map some = some a ↔ trim v.toList ≠ [] ∧ a = some v
    rw [readUpgrade?, ne_eq, ← List.isEmpty_iff]
    split
    · next hempty => simp [hempty]
    · next hempty => simp [hempty, eq_comm]

end Setting

theorem chosen_profile (e : Environment) :
    Chosen QuotaProfile.Spells .standard (e.get? "QUOTA_PROFILE") e.profile := by
  rw [Environment.profile]
  cases e.get? "QUOTA_PROFILE" with
  | none => exact .unspelled fun v p h => nomatch h
  | some v =>
    show Chosen QuotaProfile.Spells .standard (some v) (QuotaProfile.read v)
    rw [QuotaProfile.read]
    split
    · next hname => exact .spelled ⟨hname, rfl⟩
    · next hname =>
      refine .unspelled fun v' p h hspells => ?_
      cases h
      exact hname hspells.1

theorem Action.settingName_eq (a : Action) : a.settingName = "RATE_LIMIT_" ++ capitals a.name := by
  cases a <;> rfl

theorem Ceiling.of_load (e : Environment) (c : Ceiling) :
    c.of (.load e) = loadCeiling e ("QUOTA_" ++ capitals c.name) (c.of (.ofProfile e.profile)) := by
  cases c <;> rfl

theorem RateSettings.enabled_load (e : Environment) :
    (RateSettings.load e).enabled = ((e.get? "RATE_LIMIT_ENABLED").map readEnabled).getD true := rfl

theorem Ceilings.upgradeAction_load (e : Environment) :
    (Ceilings.load e).upgradeAction = (e.get? "QUOTA_UPGRADE_ACTION").bind readUpgrade? := rfl

theorem loadLimit_eq (e : Environment) (a : Action) :
    loadLimit e a = ((e.get? a.settingName).bind fun v => (Limit.read v).toOption).getD
      (({} : Policies).get a) := by
  rw [loadLimit]
  cases e.get? a.settingName with
  | none => rfl
  | some v =>
    rw [Option.map_some, Option.bind_some]
    cases Limit.read v <;> rfl

/-! ## Loading -/

/-- How long an answer of the store is to be waited for. -/
def loadTimeout (e : Environment) : Except StartupFault Duration :=
  match e.get? "COUNTING_STORE_TIMEOUT_MS" with
  | some value => readTimeout value
  | none => .ok (.ofMillis 250)

theorem load_eq (e : Environment) :
    Settings.load e = (loadTimeout e).map fun timeout =>
      { redisUrl := (e.get? "REDIS_URL").getD "redis://localhost:6379"
        storeTimeout := timeout
        rate := .load e
        ceilings := .load e } := by
  rw [Settings.load, loadTimeout]
  cases e.get? "COUNTING_STORE_TIMEOUT_MS" with
  | none => rfl
  | some v =>
    show (readTimeout v >>= _) = (readTimeout v).map _
    cases readTimeout v <;> rfl

theorem readTimeout_eq_ok_iff (v : String) (timeout : Duration) :
    readTimeout v = .ok timeout ↔ Setting.storeTimeout.read? v = some timeout := by
  show _ ↔ (readUInt64? (trim v.toList)).map Duration.ofMillis = some timeout
  rw [readTimeout]
  cases readUInt64? (trim v.toList) <;> simp

theorem readTimeout_eq_error_iff (v : String) (fault : StartupFault) :
    readTimeout v = .error fault ↔
      (∀ ms : UInt64, ¬ Unsigned (trim v.toList) ms.toNat) ∧ fault = .timeoutNotANumber v := by
  rw [readTimeout]
  split
  · next ms hms =>
    have hspells := (readUInt64?_eq_some_iff _ _).1 hms
    constructor
    · intro h
      cases h
    · rintro ⟨hnone, -⟩
      exact absurd hspells (hnone ms)
  · next hnone =>
    have hspells : ∀ ms : UInt64, ¬ Unsigned (trim v.toList) ms.toNat := by
      intro ms hms
      rw [(readUInt64?_eq_some_iff _ _).2 hms] at hnone
      cases hnone
    simp [hspells, eq_comm]

/-- Only the timeout can keep a service from being started. -/
theorem load_eq_error_iff (e : Environment) (fault : StartupFault) :
    Settings.load e = .error fault ↔
      ∃ v, e.get? "COUNTING_STORE_TIMEOUT_MS" = some v ∧
        (∀ ms : UInt64, ¬ Unsigned (trim v.toList) ms.toNat) ∧ fault = .timeoutNotANumber v := by
  have hload : Settings.load e = .error fault ↔ loadTimeout e = .error fault := by
    rw [load_eq]
    cases loadTimeout e <;> simp [Except.map]
  rw [hload, loadTimeout]
  cases e.get? "COUNTING_STORE_TIMEOUT_MS" with
  | none => simp
  | some v => simp [readTimeout_eq_error_iff]

section
variable {e : Environment} {s : Settings}

/-- What was loaded if the timeout was. -/
theorem load_fields (h : Settings.load e = .ok s) :
    loadTimeout e = .ok s.storeTimeout ∧ s.rate = .load e ∧ s.ceilings = .load e ∧
      s.redisUrl = (e.get? "REDIS_URL").getD "redis://localhost:6379" := by
  rw [load_eq] at h
  cases htimeout : loadTimeout e with
  | error fault =>
    rw [htimeout] at h
    cases h
  | ok timeout =>
    rw [htimeout] at h
    cases h
    exact ⟨rfl, rfl, rfl, rfl⟩

/-- A setting is read from its variable. -/
theorem get_eq (h : Settings.load e = .ok s) (f : Setting) :
    f.get s = ((e.get? f.source).bind f.read?).getD (f.default e.profile) := by
  obtain ⟨htimeout, hrate, hceilings, hurl⟩ := load_fields h
  cases f with
  | redisUrl =>
    show s.redisUrl = ((e.get? "REDIS_URL").bind some).getD "redis://localhost:6379"
    rw [hurl, Option.bind_fun_some]
  | storeTimeout =>
    show s.storeTimeout = ((e.get? "COUNTING_STORE_TIMEOUT_MS").bind
      Setting.storeTimeout.read?).getD (.ofMillis 250)
    rw [loadTimeout] at htimeout
    cases hvalue : e.get? "COUNTING_STORE_TIMEOUT_MS" with
    | none =>
      rw [hvalue] at htimeout
      exact (Except.ok.inj htimeout).symm
    | some v =>
      rw [hvalue] at htimeout
      rw [Option.bind_some, (readTimeout_eq_ok_iff _ _).1 htimeout, Option.getD_some]
  | enabled =>
    show s.rate.enabled = ((e.get? "RATE_LIMIT_ENABLED").bind Setting.enabled.read?).getD true
    rw [hrate, RateSettings.enabled_load]
    cases e.get? "RATE_LIMIT_ENABLED" with
    | none => rfl
    | some v =>
      rw [Option.map_some, Option.getD_some, Option.bind_some, Setting.read?]
      cases readEnabled v <;> rfl
  | keySpace =>
    show s.rate.keySpace = _
    rw [hrate]
    rfl
  | policy action =>
    show s.rate.policies.get action = _
    rw [hrate]
    show (Policies.ofFn (loadLimit e)).get action = _
    rw [Policies.get_ofFn, loadLimit_eq, action.settingName_eq]
    rfl
  | ceiling c =>
    show c.of s.ceilings = _
    rw [hceilings, c.of_load]
    rfl
  | upgradeAction =>
    show s.ceilings.upgradeAction = ((e.get? "QUOTA_UPGRADE_ACTION").bind
      fun v => (readUpgrade? v).map some).getD none
    rw [hceilings, Ceilings.upgradeAction_load]
    cases e.get? "QUOTA_UPGRADE_ACTION" with
    | none => rfl
    | some v =>
      show readUpgrade? v = ((readUpgrade? v).map some).getD none
      cases readUpgrade? v <;> rfl

/-- What is loaded for a setting is chosen by its variable. -/
theorem chosen_get (h : Settings.load e = .ok s) (f : Setting) :
    Chosen f.Spells (f.default e.profile) (e.get? f.source) (f.get s) := by
  rw [get_eq h f]
  exact chosen_of_read f.read?_eq_some_iff _ _

/-- Two environments that agree on what a setting depends on. -/
theorem get_congr {e' : Environment} {s' : Settings} (h : Settings.load e = .ok s)
    (h' : Settings.load e' = .ok s') {f : Setting} (hf : ∀ x ∈ f.sources, e.get? x = e'.get? x) :
    f.get s = f.get s' := by
  rw [get_eq h f, get_eq h' f]
  cases f with
  | ceiling c =>
    have hsource := hf (Setting.ceiling c).source (by simp [Setting.sources])
    have hprofile : e.profile = e'.profile := by
      rw [Environment.profile, Environment.profile, hf "QUOTA_PROFILE" (by simp [Setting.sources])]
    rw [hsource, hprofile]
  | _ => rw [hf _ List.mem_cons_self]; rfl

theorem defaultLimit_isUsable (action : Action) : (({} : Policies).get action).IsUsable := by
  cases action <;> exact ⟨by decide, _, by decide, rfl⟩

theorem policy_isUsable (h : Settings.load e = .ok s) (action : Action) :
    (s.rate.policies.get action).IsUsable := by
  refine (chosen_get h (.policy action)).elim (P := Limit.IsUsable) ?_ ?_
  · rintro v limit ⟨requests, secs, -, hrequests, hsecs, rfl⟩
    have hrequests : requests.toNat ≠ 0 := fun h => hrequests (UInt32.toNat_inj.1 h)
    have hsecs : secs.toNat ≠ 0 := fun h => hsecs (UInt64.toNat_inj.1 h)
    exact ⟨Nat.pos_of_ne_zero hrequests, secs, Nat.pos_of_ne_zero hsecs, rfl⟩
  · exact defaultLimit_isUsable action

theorem keySpace_isUsable (h : Settings.load e = .ok s) :
    s.rate.keySpace ≠ "" ∧ Bare s.rate.keySpace.toList := by
  refine (chosen_get h .keySpace).elim (P := fun name : String => name ≠ "" ∧ Bare name.toList)
    ?_ ?_
  · rintro v name ⟨rfl, hne⟩
    rw [toList_trimmed]
    refine ⟨fun hempty => hne ?_, bare_trim _⟩
    rw [← toList_trimmed, hempty]
    rfl
  · have hfirst : "ratelimit".toList.head? = some 'r' := rfl
    have hlast : "ratelimit".toList.getLast? = some 't' := rfl
    show "ratelimit" ≠ "" ∧ Bare "ratelimit".toList
    refine ⟨by decide, fun c hc => ?_, fun c hc => ?_⟩
    · rw [hfirst] at hc
      cases hc
      rfl
    · rw [hlast] at hc
      cases hc
      rfl

theorem enabled_eq_false_iff (h : Settings.load e = .ok s) :
    s.rate.enabled = false ↔ ∃ v, e.get? "RATE_LIMIT_ENABLED" = some v ∧ trimmed v = "false" := by
  rw [(load_fields h).2.1, RateSettings.enabled_load]
  cases e.get? "RATE_LIMIT_ENABLED" with
  | none => simp
  | some v => simp [readEnabled]

end

/-- **Settings are loaded one by one.** Loading fails just if the timeout of the store is set
and is no number of 64 bits, and then names what was written. Otherwise every setting has the
value that its own variable spells, and its default if that spells none, where the default of
a ceiling is the one of the profile. Counting is off just if it is turned off in so many
letters; every limit allows a request in a second at least; and the key space is not empty and
has no blanks around it. Two environments that agree on the variables of a setting load the
same for it, whatever else is in them. -/
theorem load_by_field (e : Environment) :
    (∀ fault, Settings.load e = .error fault ↔
      ∃ v, e.get? "COUNTING_STORE_TIMEOUT_MS" = some v ∧
        (∀ ms : UInt64, ¬ Unsigned (trim v.toList) ms.toNat) ∧ fault = .timeoutNotANumber v) ∧
    ∀ s, Settings.load e = .ok s →
      (∃ p, Chosen QuotaProfile.Spells .standard (e.get? "QUOTA_PROFILE") p ∧
        ∀ f : Setting, Chosen f.Spells (f.default p) (e.get? f.source) (f.get s)) ∧
      (s.rate.enabled = false ↔
        ∃ v, e.get? "RATE_LIMIT_ENABLED" = some v ∧ trimmed v = "false") ∧
      (∀ action, (s.rate.policies.get action).IsUsable) ∧
      (s.rate.keySpace ≠ "" ∧ Bare s.rate.keySpace.toList) ∧
      ∀ e' s', Settings.load e' = .ok s' →
        ∀ f : Setting, (∀ x ∈ f.sources, e.get? x = e'.get? x) → f.get s = f.get s' := by
  refine ⟨load_eq_error_iff e, fun s h => ⟨⟨e.profile, chosen_profile e, chosen_get h⟩,
    enabled_eq_false_iff h, policy_isUsable h, keySpace_isUsable h, fun e' s' h' f hf => ?_⟩⟩
  exact get_congr h h' hf

/-- Where nothing is set, every setting is its default. -/
example : Settings.load ⟨[]⟩ = .ok
    { redisUrl := "redis://localhost:6379"
      storeTimeout := .ofMillis 250
      rate :=
        { enabled := true
          keySpace := "ratelimit"
          policies := ⟨.perMinute 100, .perMinute 5, .perMinute 10, .perSeconds 5 5,
            .perMinute 10, .perMinute 20, .perHour 10, .perMinute 10⟩ }
      ceilings := ⟨500, 5120, 25, 2000, 10, 100, 500, 250, 10000, none⟩ } := rfl

/-! ## An environment with faults -/

/-- A limit of zero and a ceiling in words leave their settings as they are. -/
def sampleEnvironment : Environment :=
  ⟨[("COUNTING_STORE_TIMEOUT_MS", " +500\n"), ("RATE_LIMIT_ENABLED", "false "),
    ("RATE_LIMIT_AUTH", "3, 60"), ("RATE_LIMIT_API", "0,60"), ("QUOTA_PROFILE", "Unlimited"),
    ("QUOTA_MAX_SERVERS_OWNED", "-07"), ("QUOTA_MAX_FILE_SIZE_MB", "many")]⟩

def sampleSettings : Settings where
  storeTimeout := .ofMillis 500
  rate := { enabled := false, policies := { auth := .perMinute 3 } }
  ceilings := { Ceilings.unlimited with serversOwned := -7 }

theorem load_sampleEnvironment :
    Settings.load sampleEnvironment = .ok sampleSettings ∧
    Settings.load ⟨[("RATE_LIMIT_AUTH", "3, 60")]⟩ =
      .ok { rate := { policies := { auth := .perMinute 3 } } } ∧
    (sampleSettings.rate.policies.get .auth).IsUsable ∧
    Chosen (Setting.ceiling .serversOwned).Spells (0 : Int64) (some "-07") (-7 : Int64) ∧
    Setting.get sampleSettings (.policy .auth) = Limit.perMinute 3 := by
  have hload : Settings.load sampleEnvironment = .ok sampleSettings := rfl
  have hother : Settings.load ⟨[("RATE_LIMIT_AUTH", "3, 60")]⟩ =
      .ok { rate := { policies := { auth := .perMinute 3 } } } := rfl
  obtain ⟨⟨p, hprofile, hchosen⟩, -, husable, -, hagree⟩ :=
    (load_by_field sampleEnvironment).2 sampleSettings hload
  have hunlimited : p = .unlimited := by
    have hvalue : sampleEnvironment.get? "QUOTA_PROFILE" = some "Unlimited" := rfl
    rw [hvalue] at hprofile
    cases hprofile with
    | spelled hspells => exact hspells.2
    | unspelled hnone => exact absurd ⟨by decide, rfl⟩ (hnone _ .unlimited rfl)
  subst hunlimited
  refine ⟨hload, hother, husable .auth, hchosen (.ceiling .serversOwned), ?_⟩
  exact hagree _ _ hother (.policy .auth) fun x hx => by
    rw [List.mem_singleton.1 hx]
    rfl

end Turnstile
