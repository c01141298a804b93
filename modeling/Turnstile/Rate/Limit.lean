import Turnstile.Text.Blank
import Turnstile.Text.Decimal
import Turnstile.Text.Quoted
import Turnstile.Time.Duration

/-!
# Limits

A limit allows a number of requests per window of time. Its definition is written as two
numbers with a comma between them, the second one in seconds.

A definition is faulty for one of three reasons. If either side is no number in its range,
the definition as a whole is malformed; a limit or a window of zero is named as such, the
limit first.
-/

namespace Turnstile

structure Limit where
  requests : UInt32
  window : Duration
  deriving DecidableEq

inductive LimitFault where
  | zeroRequests
  | zeroWindow
  | malformed (definition : String)
  deriving DecidableEq

namespace LimitFault

def message : LimitFault → String
  | .zeroRequests => "Rate limit must allow at least one request"
  | .zeroWindow => "Rate limit window must be longer than zero"
  | .malformed definition =>
    "Invalid rate limit definition " ++ Text.quoted definition ++
      ", expected \"requests,window_secs\""

end LimitFault

namespace Limit

open Turnstile.Text

/-- The limit of so many requests in a window, both of which must not be zero. -/
def make (requests : UInt32) (window : Duration) : Except LimitFault Limit :=
  if requests = 0 then .error .zeroRequests
  else if window.isZero then .error .zeroWindow
  else .ok ⟨requests, window⟩

def perSeconds (requests : UInt32) (secs : UInt64) : Limit := ⟨requests, .ofSecs secs⟩

def perMinute (requests : UInt32) : Limit := perSeconds requests 60

def perHour (requests : UInt32) : Limit := perSeconds requests 3600

/-- The window in whole seconds. -/
def windowSecs (l : Limit) : UInt64 := l.window.secs

/-! ## Definitions -/

/-- The parts of a text before and after its first comma. -/
def splitComma? : List Char → Option (List Char × List Char)
  | [] => none
  | ',' :: r => some ([], r)
  | c :: r => (splitComma? r).map fun p => (c :: p.1, p.2)

/-- The two numbers of a definition, each with blanks around it. -/
def numbers? (cs : List Char) : Option (UInt32 × UInt64) := do
  let (requests, secs) ← splitComma? cs
  some (← Decimal.readUInt32? (trim requests), ← Decimal.readUInt64? (trim secs))

def read (definition : String) : Except LimitFault Limit :=
  match numbers? definition.toList with
  | none => .error (.malformed definition)
  | some (requests, secs) => make requests (.ofSecs secs)

/-- The definition of a limit whose window is a whole number of seconds. -/
def write (l : Limit) : String :=
  Decimal.ofNat l.requests.toNat ++ "," ++ Decimal.ofNat l.windowSecs.toNat

end Limit

end Turnstile
