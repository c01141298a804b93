import Turnstile.Dialogue
import Turnstile.Time.Duration

/-!
# Counting stores

A counting store keeps one counter per key and can do two things: count one more, and read.
A key without a live counter starts at one and lives for the time given; a later increment
does not prolong it. A store may fail to answer.
-/

namespace Turnstile

/-- What is asked of a counting store. -/
inductive StoreCall where
  | increment (key : String) (ttl : Duration)
  | read (key : String)
  deriving DecidableEq

inductive StoreFault where
  /-- The key has no live counter. -/
  | notFound
  | unavailable (reason : String)
  /-- No answer within this time. -/
  | timeout (after : Duration)
  deriving DecidableEq

/-- A count, or why there is none. -/
abbrev StoreAnswer := Except StoreFault Int64

/-- A computation that asks a counting store. -/
abbrev Counting := Dialogue StoreCall StoreAnswer

namespace StoreFault

def message : StoreFault → String
  | .notFound => "Key not found"
  | .unavailable reason => "Counting store unavailable: " ++ reason
  | .timeout after => "Counting store timed out after " ++ after.text

end StoreFault

namespace Counting

/-- Counts one more under a key and gives the count. -/
def increment (key : String) (ttl : Duration) : Counting StoreAnswer := .put (.increment key ttl)

def read (key : String) : Counting StoreAnswer := .put (.read key)

end Counting

end Turnstile
