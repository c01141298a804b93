import Turnstile.Json
import Turnstile.Text.Decimal
import Turnstile.Time.Timestamp

/-!
# Budgets

What a client is told about a limit: how many requests it allows, how many are left, and
when the window is expected to end.
-/

namespace Turnstile

structure Budget where
  limit : UInt32
  remaining : UInt32
  resetAt : Timestamp
  deriving DecidableEq

namespace Budget

open Turnstile.Text

def headers (b : Budget) : List (String × String) :=
  [("x-ratelimit-limit", Decimal.ofNat b.limit.toNat),
   ("x-ratelimit-remaining", Decimal.ofNat b.remaining.toNat),
   ("x-ratelimit-reset", Decimal.ofInt b.resetAt.secs)]

def toJson (b : Budget) : Json := .obj
  [("limit", .ofUInt32 b.limit), ("remaining", .ofUInt32 b.remaining),
   ("reset_at", .str b.resetAt.text)]

/-- A window's end if it starts now. A window that the calendar cannot hold has no length. -/
def windowEnd (now : Timestamp) (window : Duration) : Timestamp := (now.add? window).getD now

end Budget

end Turnstile
