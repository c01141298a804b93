import Turnstile.Quota.Megabytes
import Turnstile.Quota.Resource
import Turnstile.Response
import Turnstile.Time.Duration

/-!
# Denials for want of budget

Why a permitted action was refused: a ceiling is reached, a file is too large, requests
come too fast. A denial by a ceiling may carry a hint on how to raise it; one for coming
too fast never does, and is alone in naming a time to wait.
-/

namespace Turnstile

inductive QuotaDenial where
  /-- The action would bring the use of a resource beyond its ceiling. -/
  | exceeded (resource : Resource) (used limit wouldBe : UInt64) (upgrade : Option String)
  /-- More requests than a limit allows. -/
  | tooMany (requests : UInt32) (windowSecs retryAfter : UInt64)
  /-- A second message within the interval of a channel. -/
  | slowmode (secs retryAfter : UInt64)
  /-- A file above the ceiling, given in megabytes. -/
  | fileTooLarge (bytes limitMegabytes : UInt64) (upgrade : Option String)
  deriving DecidableEq

/-- What a client tells denials apart by. -/
inductive QuotaDenialKind where
  | quotaExceeded
  | rateLimited
  | fileTooLarge
  deriving DecidableEq

namespace QuotaDenialKind

def all : List QuotaDenialKind := [.quotaExceeded, .rateLimited, .fileTooLarge]

def name : QuotaDenialKind → String
  | .quotaExceeded => "quota_exceeded"
  | .rateLimited => "rate_limited"
  | .fileTooLarge => "file_too_large"

def status : QuotaDenialKind → Nat
  | .quotaExceeded => 403
  | .rateLimited => 429
  | .fileTooLarge => 413

end QuotaDenialKind

namespace QuotaDenial

/-- The denial with a hint in place of its own. A rate limit takes none. -/
def withUpgrade (d : QuotaDenial) (upgrade : Option String) : QuotaDenial :=
  match d with
  | .exceeded resource used limit wouldBe _ => .exceeded resource used limit wouldBe upgrade
  | .fileTooLarge bytes limit _ => .fileTooLarge bytes limit upgrade
  | .tooMany .. | .slowmode .. => d

def kind : QuotaDenial → QuotaDenialKind
  | .exceeded .. => .quotaExceeded
  | .tooMany .. | .slowmode .. => .rateLimited
  | .fileTooLarge .. => .fileTooLarge

/-- Seconds to wait before another try. -/
def retryAfter? : QuotaDenial → Option UInt64
  | .tooMany _ _ retryAfter => some retryAfter
  | .slowmode _ retryAfter => some retryAfter
  | _ => none

def upgrade? : QuotaDenial → Option String
  | .exceeded _ _ _ _ upgrade => upgrade
  | .fileTooLarge _ _ upgrade => upgrade
  | _ => none

/-! ## Text -/

def number (n : UInt64) : String := Text.Decimal.ofNat n.toNat

def message : QuotaDenial → String
  | .exceeded resource used limit wouldBe _ =>
    resource.description ++ " limit reached: " ++ resource.unit.amountText used ++ " used of " ++
      resource.unit.amountText limit ++ ", this action would bring it to " ++ resource.unit.amountText wouldBe
  | .tooMany requests windowSecs retryAfter =>
    "Too many requests: limit is " ++ Text.Decimal.ofNat requests.toNat ++ " per " ++
      number windowSecs ++ " seconds. Wait " ++ number retryAfter ++ " seconds."
  | .slowmode secs retryAfter =>
    "Slowmode is enabled: one message every " ++ number secs ++ " seconds. Wait " ++
      number retryAfter ++ " seconds."
  | .fileTooLarge bytes limit _ =>
    "File is " ++ number (megabytesOf bytes) ++ " MB, the maximum is " ++ number limit ++ " MB"

/-! ## Response -/

/-- The figures of a denial. -/
def details : QuotaDenial → Json
  | .exceeded resource used limit wouldBe _ => .obj
    [("resource", .str resource.name), ("unit", .str resource.unit.name),
     ("used", .ofUInt64 used), ("limit", .ofUInt64 limit), ("would_be", .ofUInt64 wouldBe)]
  | .tooMany requests windowSecs _ => .obj
    [("limit", .ofUInt32 requests), ("window_secs", .ofUInt64 windowSecs)]
  | .slowmode secs _ => .obj
    [("limit", .int 1), ("window_secs", .ofUInt64 secs), ("slowmode_secs", .ofUInt64 secs)]
  | .fileTooLarge bytes limit _ => .obj
    [("size_bytes", .ofUInt64 bytes), ("size_mb", .ofUInt64 (megabytesOf bytes)),
     ("limit_mb", .ofUInt64 limit)]

def body (d : QuotaDenial) : Json := .obj <|
  [("error", .str d.kind.name), ("message", .str d.message), ("details", d.details)] ++
    (d.retryAfter?.map fun n => ("retry_after", .ofUInt64 n)).toList ++
    (d.upgrade?.map fun s => ("upgrade_action", .str s)).toList

def response (d : QuotaDenial) : Response :=
  .ofJson d.kind.status (d.retryAfter?.map fun n => ("retry-after", number n)).toList d.body

end QuotaDenial

end Turnstile
