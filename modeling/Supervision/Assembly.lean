import Supervision.System

/-!
# Assembling a supervisor

A supervisor is assembled from an extension, a configuration and three collaborators:
the registry, the binder and the notification center. `Assembly` says what has been
supplied, and `Assembly.check` refuses what is not complete, the configuration first.
`System.spawn` is the supervisor at its start: one handle, nothing posted, and a loop that
has yet to take its first turn.
-/

namespace Supervision

/-- What a supervisor is to be assembled from. -/
structure Assembly where
  extension : Extension
  hasRegistry : Bool := false
  hasBinder : Bool := false
  hasNotifications : Bool := false
  config : Config := {}

/-- What is missing first, if anything is. -/
def Assembly.check (a : Assembly) : Except Error Unit := do
  a.config.validate
  if !a.hasRegistry then
    throw (.config "registry is required. Use .registry() to set it.")
  if !a.hasBinder then
    throw (.config "binder is required. Use .binder() to set it.")
  if !a.hasNotifications then
    throw (.config "notification center is required. Use .notifications() to set it.")

/-- A supervisor that has just been started in a world. -/
def System.spawn {W : Type} (extension : Extension) (config : Config) (world : W) : System W :=
  ({ extension, config, world } : System W).note .started

end Supervision
