import Turnstile.Quota.Ceilings
import Turnstile.Quota.Denial

/-!
# Quota checks

Each check compares what a caller has counted with a ceiling, and passes if there is none.
Storage and file sizes are compared in bytes and shown in megabytes.
-/

namespace Turnstile

namespace Ceilings

/-- The largest upload in bytes, if there is a ceiling. -/
def fileBytes? (c : Ceilings) : Option UInt64 :=
  (amount? c.fileSizeMb).map fun mb => mulSaturating mb bytesPerMegabyte

def exceeded (c : Ceilings) (r : Resource) (used limit wouldBe : UInt64) : QuotaDenial :=
  .exceeded r used limit wouldBe c.upgradeAction

/-- A message of so many characters. -/
def checkLength (c : Ceilings) (content : String) : Except QuotaDenial Unit :=
  match c.limit? .messageLength with
  | none => .ok ()
  | some limit =>
    let length := amountOfNat content.length
    if limit < length then .error (c.exceeded .messageLength 0 limit length) else .ok ()

/-- One upload. -/
def checkFileSize (c : Ceilings) (bytes : UInt64) : Except QuotaDenial Unit :=
  match c.fileBytes? with
  | none => .ok ()
  | some most =>
    if most < bytes then .error (.fileTooLarge bytes c.fileSizeMb.toUInt64 c.upgradeAction)
    else .ok ()

/-- So many bytes more in a store that holds `used` bytes. -/
def checkStorage (c : Ceilings) (r : Resource) (used incoming : UInt64) :
    Except QuotaDenial Unit :=
  match c.limit? r with
  | none => .ok ()
  | some limit =>
    let wouldBe := addSaturating used incoming
    if mulSaturating limit bytesPerMegabyte < wouldBe then
      .error (c.exceeded r (megabytesOf used) limit (megabytesOf wouldBe))
    else .ok ()

def checkUserStorage (c : Ceilings) (used incoming : UInt64) : Except QuotaDenial Unit :=
  c.checkStorage .userStorage used incoming

def checkServerStorage (c : Ceilings) (used incoming : UInt64) : Except QuotaDenial Unit :=
  c.checkStorage .serverStorage used incoming

/-- One more of a resource. -/
def checkCount (c : Ceilings) (r : Resource) (current : UInt64) : Except QuotaDenial Unit :=
  match c.limit? r with
  | none => .ok ()
  | some limit =>
    let wouldBe := addSaturating current 1
    if limit < wouldBe then .error (c.exceeded r current limit wouldBe) else .ok ()

def checkServersOwned (c : Ceilings) (current : UInt64) : Except QuotaDenial Unit :=
  c.checkCount .serversOwned current

def checkServersJoined (c : Ceilings) (current : UInt64) : Except QuotaDenial Unit :=
  c.checkCount .serversJoined current

def checkChannels (c : Ceilings) (current : UInt64) : Except QuotaDenial Unit :=
  c.checkCount .channelsPerServer current

def checkRoles (c : Ceilings) (current : UInt64) : Except QuotaDenial Unit :=
  c.checkCount .rolesPerServer current

def checkMembers (c : Ceilings) (current : UInt64) : Except QuotaDenial Unit :=
  c.checkCount .membersPerServer current

end Ceilings

end Turnstile
