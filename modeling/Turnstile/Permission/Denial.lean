import Turnstile.Permission.Mask
import Turnstile.Response

/-!
# Denials for want of permission

Why an action was refused before anything was counted, and how the client is told.
-/

namespace Turnstile

inductive PermissionDenial where
  /-- These required permissions are not held. -/
  | missing (permissions : Mask)
  /-- The target does not rank below the actor. -/
  | rank (actor target : Int32)
  /-- These permissions would be given by someone who does not hold them. -/
  | escalation (permissions : Mask)
  | targetIsOwner
  | notAMember
  deriving DecidableEq

namespace PermissionDenial

def code : PermissionDenial → String
  | .missing _ => "missing_permission"
  | .rank .. => "role_hierarchy"
  | .escalation _ => "cannot_escalate"
  | .targetIsOwner => "cannot_moderate_owner"
  | .notAMember => "not_server_member"

def message : PermissionDenial → String
  | .missing m => "Missing permission: " ++ m.text
  | .rank actor target =>
    "Cannot act on position " ++ Text.Decimal.ofInt target.toInt ++ " (your position: " ++
      Text.Decimal.ofInt actor.toInt ++ ")"
  | .escalation m => "Cannot grant permissions you don't have: " ++ m.text
  | .targetIsOwner => "Cannot moderate server owner"
  | .notAMember => "User is not a member of this server"

/-- The permissions that a denial is about. -/
def permissions? : PermissionDenial → Option Mask
  | .missing m => some m
  | .escalation m => some m
  | _ => none

def body (d : PermissionDenial) : Json := .obj <|
  [("error", .str d.code), ("message", .str d.message)] ++
    (d.permissions?.map fun m => ("permissions", m.toJson)).toList

def response (d : PermissionDenial) : Response := .ofJson 403 [] d.body

end PermissionDenial

end Turnstile
