/-!
# Limited actions

The actions that have a budget of their own.
-/

namespace Turnstile

inductive Action where
  | api
  | auth
  | upload
  | messageSend
  | messageEdit
  | reaction
  | serverCreate
  | inviteCreate
  deriving DecidableEq

namespace Action

def all : List Action :=
  [.api, .auth, .upload, .messageSend, .messageEdit, .reaction, .serverCreate, .inviteCreate]

/-- The name of an action in counting keys. -/
def name : Action → String
  | .api => "api"
  | .auth => "auth"
  | .upload => "upload"
  | .messageSend => "message_send"
  | .messageEdit => "message_edit"
  | .reaction => "reaction"
  | .serverCreate => "server_create"
  | .inviteCreate => "invite_create"

/-- The environment variable that sets the limit of an action. -/
def settingName : Action → String
  | .api => "RATE_LIMIT_API"
  | .auth => "RATE_LIMIT_AUTH"
  | .upload => "RATE_LIMIT_UPLOAD"
  | .messageSend => "RATE_LIMIT_MESSAGE_SEND"
  | .messageEdit => "RATE_LIMIT_MESSAGE_EDIT"
  | .reaction => "RATE_LIMIT_REACTION"
  | .serverCreate => "RATE_LIMIT_SERVER_CREATE"
  | .inviteCreate => "RATE_LIMIT_INVITE_CREATE"

def ofName? (s : String) : Option Action := all.find? fun a => a.name == s

theorem mem_all (a : Action) : a ∈ all := by cases a <;> decide

theorem ofName?_name (a : Action) : ofName? a.name = some a := by cases a <;> rfl

end Action

end Turnstile
