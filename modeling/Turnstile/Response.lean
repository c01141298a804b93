import Turnstile.Json.Printer

/-!
# Responses to a client

A denial reaches the client as an HTTP response with a JSON body.
-/

namespace Turnstile

structure Response where
  status : Nat
  headers : List (String × String)
  body : String
  deriving DecidableEq

namespace Response

/-- A response with this body, after the headers given. -/
def ofJson (status : Nat) (headers : List (String × String)) (body : Json) : Response :=
  ⟨status, ("content-type", "application/json") :: headers, body.text⟩

end Response

end Turnstile
