import Supervision.Extension

/-!
# Errors

The causes for which a supervisor cannot be started, a collaborator refuses a call, or a
caller cannot be answered. `Error.message` is their wording. Causes fall into classes: an
extension that does not resolve may do so later, a bind may be tried again, and a dead
session is replaced; the rest is not recoverable by trying again.
-/

namespace Supervision

/-- Why something failed. -/
inductive Error
  | config (message : String)
  | packageNotFound (package : PackageName) (user : UserId)
  | componentNotFound (extension : Extension)
  | bindRejected (extension : Extension) (reason : String)
  | bindRefused (extension : Extension)
  | sessionDead (message : String)
  | deathLinkFailed (message : String)
  | subscription (message : String)
  | supervisorClosed
  | channelClosed
  deriving DecidableEq

namespace Error

/-- The wording of an error. -/
def message : Error → String
  | .config m => "Configuration error: " ++ m
  | .packageNotFound p u => "Package not found: " ++ p.text ++ " (user " ++ u.text ++ ")"
  | .componentNotFound x => "Component not found: " ++ x.text
  | .bindRejected x reason => "Bind rejected for " ++ x.text ++ ": " ++ reason
  | .bindRefused x => "Bind refused for " ++ x.text
  | .sessionDead m => "Session dead: " ++ m
  | .deathLinkFailed m => "Failed to link death notification: " ++ m
  | .subscription m => "Subscription error: " ++ m
  | .supervisorClosed => "Supervisor closed"
  | .channelClosed => "Channel closed"

/-- The extension does not resolve, but may do so later. -/
def isTransient : Error → Bool
  | .packageNotFound .. => true
  | .componentNotFound .. => true
  | _ => false

/-- The binder did not accept the bind. -/
def isBindError : Error → Bool
  | .bindRejected .. => true
  | .bindRefused .. => true
  | _ => false

/-- The session does not work. -/
def isSessionError : Error → Bool
  | .sessionDead .. => true
  | .deathLinkFailed .. => true
  | _ => false

/-- Trying again may help. -/
def isRecoverable (e : Error) : Bool := e.isTransient || e.isBindError || e.isSessionError

end Error

end Supervision
