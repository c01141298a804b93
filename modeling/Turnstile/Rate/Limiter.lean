import Turnstile.Quota.Denial
import Turnstile.Rate.Budget
import Turnstile.Rate.Policies
import Turnstile.Rate.Scope
import Turnstile.Store

/-!
# The rate limiter

Each request counts one more in its scope and is denied if the window then holds more than
the limit. The limiter keeps nothing itself: all counting is left to a store, and a store
that fails lets requests through.
-/

namespace Turnstile

structure Limiter where
  settings : RateSettings

namespace Limiter

/-- The answer to a client, after a store was asked. -/
abbrev Verdict := Counting (Except QuotaDenial Unit)

def policy (l : Limiter) (action : Action) : Limit := l.settings.policies.get action

def key (l : Limiter) (scopeName : String) : String := countingKey l.settings.keySpace scopeName

/-! ## Counted limits -/

/-- Whether a count is within a limit. -/
def within (limit : UInt32) (count : Int64) : Bool := count.toInt ≤ limit.toNat

theorem within_iff (limit : UInt32) (count : Int64) :
    within limit count = true ↔ count.toInt ≤ limit.toNat := decide_eq_true_iff

/-- Counts one request, and denies it beyond the limit. -/
def check (l : Limiter) (scopeName : String) (limit : Limit) : Verdict :=
  if l.settings.enabled then do
    match ← Counting.increment (l.key scopeName) limit.window with
    | .ok count =>
      if within limit.requests count then return .ok ()
      else return .error (.tooMany limit.requests limit.windowSecs limit.windowSecs)
    | .error _ => return .ok ()
  else return .ok ()

def checkScope (l : Limiter) (scope : Scope) (limit : Limit) : Verdict := l.check scope.name limit

/-! ## Slowmode -/

/-- One message of a user in a channel per so many seconds, none required if they are not
positive. A marker that is there denies; without one the message sets it, and of several
that found none only the first passes. -/
def checkSlowmode (l : Limiter) (userId channelId : Uuid) (secs : Int64) : Verdict :=
  if secs ≤ 0 then return .ok ()
  else do
    let interval := secs.toUInt64
    let key := l.key (Scope.slowmode userId channelId).name
    match ← Counting.read key with
    | .ok _ => return .error (.slowmode interval interval)
    | .error .notFound =>
      match ← Counting.increment key (.ofSecs interval) with
      | .ok count =>
        if 1 < count then return .error (.slowmode interval interval) else return .ok ()
      | .error _ => return .ok ()
    | .error _ => return .ok ()

/-! ## Budgets -/

/-- What a limit leaves at a count, in 64-bit arithmetic. The request that asks is counted,
and is itself part of what is left. -/
def left (limit : UInt32) (count : Int64) : UInt32 :=
  let most : Int64 := limit.toUInt64.toInt64
  (max 0 (min (most - count + 1) most)).toUInt64.toUInt32

/-- The requests left in a scope. The question counts as a request. -/
def remaining (l : Limiter) (scopeName : String) (limit : Limit) : Counting UInt32 :=
  if l.settings.enabled then do
    match ← Counting.increment (l.key scopeName) limit.window with
    | .ok count => return left limit.requests count
    | .error _ => return limit.requests
  else return limit.requests

/-- The budget of a scope, with the window taken to start now. -/
def budget (l : Limiter) (now : Timestamp) (scopeName : String) (limit : Limit) :
    Counting Budget := do
  return ⟨limit.requests, ← l.remaining scopeName limit, Budget.windowEnd now limit.window⟩

/-! ## Lemmas -/

/-- What a check comes to when the store has answered. -/
def verdict (limit : Limit) : StoreAnswer → Except QuotaDenial Unit
  | .ok count =>
    if within limit.requests count then .ok ()
    else .error (.tooMany limit.requests limit.windowSecs limit.windowSecs)
  | .error _ => .ok ()

/-- What a limit leaves when the store has answered. -/
def leftOver (limit : Limit) : StoreAnswer → UInt32
  | .ok count => left limit.requests count
  | .error _ => limit.requests

/-- What a message comes to when the marker was counted. -/
def marked (secs : Int64) : StoreAnswer → Except QuotaDenial Unit
  | .ok count => if 1 < count then .error (.slowmode secs.toUInt64 secs.toUInt64) else .ok ()
  | .error _ => .ok ()

/-- The second half of a slowmode check, which counts the marker. -/
def marking (l : Limiter) (userId channelId : Uuid) (secs : Int64) : Verdict :=
  .ask (.increment (l.key (Scope.slowmode userId channelId).name) (.ofSecs secs.toUInt64))
    fun a => .done (marked secs a)

/-- How a slowmode check goes on when the marker was looked for. -/
def sought (l : Limiter) (userId channelId : Uuid) (secs : Int64) : StoreAnswer → Verdict
  | .ok _ => .done (.error (.slowmode secs.toUInt64 secs.toUInt64))
  | .error .notFound => l.marking userId channelId secs
  | .error _ => .done (.ok ())

theorem verdict_of_le {limit : Limit} {count : Int64}
    (h : count.toInt ≤ limit.requests.toNat) : verdict limit (.ok count) = .ok () :=
  if_pos ((within_iff _ _).2 h)

theorem verdict_of_lt {limit : Limit} {count : Int64}
    (h : limit.requests.toNat < count.toInt) :
    verdict limit (.ok count) =
      .error (.tooMany limit.requests limit.windowSecs limit.windowSecs) :=
  if_neg fun hwithin => Int.not_le.2 h ((within_iff _ _).1 hwithin)

theorem check_eq (l : Limiter) (scopeName : String) (limit : Limit) :
    l.check scopeName limit =
      if l.settings.enabled then
        .ask (.increment (l.key scopeName) limit.window) fun a => .done (verdict limit a)
      else .done (.ok ()) := by
  unfold check
  split
  · show Dialogue.ask _ _ = Dialogue.ask _ _
    congr 1
    funext a
    cases a with
    | error fault => rfl
    | ok count =>
      show (ite _ _ _ : Verdict) = Dialogue.done (ite _ _ _)
      split <;> rfl
  · rfl

theorem remaining_eq (l : Limiter) (scopeName : String) (limit : Limit) :
    l.remaining scopeName limit =
      if l.settings.enabled then
        .ask (.increment (l.key scopeName) limit.window) fun a => .done (leftOver limit a)
      else .done limit.requests := by
  unfold remaining
  split
  · show Dialogue.ask _ _ = Dialogue.ask _ _
    congr 1
    funext a
    cases a <;> rfl
  · rfl

theorem checkSlowmode_eq (l : Limiter) (userId channelId : Uuid) (secs : Int64) :
    l.checkSlowmode userId channelId secs =
      if secs ≤ 0 then .done (.ok ())
      else .ask (.read (l.key (Scope.slowmode userId channelId).name))
        (l.sought userId channelId secs) := by
  unfold checkSlowmode
  split
  · rfl
  · show Dialogue.ask _ _ = Dialogue.ask _ _
    congr 1
    funext a
    cases a with
    | ok count => rfl
    | error fault =>
      cases fault with
      | notFound =>
        show Dialogue.ask _ _ = Dialogue.ask _ _
        congr 1
        funext b
        cases b with
        | error fault => rfl
        | ok count =>
          show (ite _ _ _ : Verdict) = Dialogue.done (ite _ _ _)
          split <;> rfl
      | unavailable reason => rfl
      | timeout after => rfl

end Limiter

end Turnstile
