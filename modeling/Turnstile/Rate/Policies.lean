import Turnstile.Rate.Action
import Turnstile.Rate.Limit

/-!
# Policies

The limit of each action, and how limits are counted.
-/

namespace Turnstile

/-- A limit for each action. -/
structure Policies where
  api : Limit := .perMinute 100
  auth : Limit := .perMinute 5
  upload : Limit := .perMinute 10
  messageSend : Limit := .perSeconds 5 5
  messageEdit : Limit := .perMinute 10
  reaction : Limit := .perMinute 20
  serverCreate : Limit := .perHour 10
  inviteCreate : Limit := .perMinute 10
  deriving DecidableEq

namespace Policies

def get (p : Policies) : Action → Limit
  | .api => p.api
  | .auth => p.auth
  | .upload => p.upload
  | .messageSend => p.messageSend
  | .messageEdit => p.messageEdit
  | .reaction => p.reaction
  | .serverCreate => p.serverCreate
  | .inviteCreate => p.inviteCreate

/-- The policies that give each action the limit `f` gives it. -/
def ofFn (f : Action → Limit) : Policies where
  api := f .api
  auth := f .auth
  upload := f .upload
  messageSend := f .messageSend
  messageEdit := f .messageEdit
  reaction := f .reaction
  serverCreate := f .serverCreate
  inviteCreate := f .inviteCreate

@[simp] theorem get_ofFn (f : Action → Limit) (a : Action) : (ofFn f).get a = f a := by
  cases a <;> rfl

end Policies

structure RateSettings where
  /-- Whether requests are counted. Slowmode is kept up in any case. -/
  enabled : Bool := true
  /-- What every counting key starts with. -/
  keySpace : String := "ratelimit"
  policies : Policies := {}
  deriving DecidableEq

end Turnstile
