import Supervision.Command
import Supervision.Config
import Supervision.Metadata
import Supervision.Status

/-!
# The host

A supervisor works with four collaborators it knows nothing about: a registry of installed
extensions, a binder, a notification center, and the transports that connections come
with. It also calls the change listener its caller has set. `Host` is all of them
together, over a world of which only they know the content: each call gives the answer,
the world after it, and what was done to the supervisor in the meantime.

What can be done during a call is part of a host's type. The binder's `bind` and the change
listener may do all that callers can (`Act`). The other calls only allow what posts to the
loop or looks at the registry (`Deed`):

* While an event is dispatched, deliveries are locked out. A transport that told the
  extension something then would wait for itself.
* While a binding is given back, a subscription is opened or closed, or a session is linked
  to its death, nothing is locked. That the extension is told nothing meanwhile is an
  assumption on the host, and nothing is said here of hosts that break it.
* The registry just answers. That nothing at all is done to the supervisor during a lookup is
  an assumption on the host as well.
-/

namespace Supervision

/-! ## What is done to a supervisor -/

/-- What a caller asks of the loop through a handle. -/
inductive Request
  | setEnabled (enabled : Bool)
  | flush
  | setListener (listener : Option ListenerId)
  | settle
  | shutdown
  deriving DecidableEq

/-- What a collaborator reports to the loop, without keeping it alive. -/
inductive Report
  | connected (token : BindToken) (transport : TransportId)
  | disconnected (token : BindToken)
  | died (token : BindToken)
  | signal (subscription : Subscription) (signal : Signal)
  deriving DecidableEq

/-- The command that a report posts. -/
def Report.command : Report → Command
  | .connected t x => .connected t x
  | .disconnected t => .sessionDied t .disconnected
  | .died t => .sessionDied t .deathNotification
  | .signal s x => .signal s x

/-- What can be done to a supervisor at any moment, also while deliveries are locked out. -/
inductive Deed
  | ask (request : Request)
  | report (report : Report)
  /-- A caller asks whether the extension is active. -/
  | lookUp
  /-- A caller makes another handle. -/
  | clone
  /-- A caller drops a handle. -/
  | drop
  /-- Somebody takes the next bind token for a purpose of their own. -/
  | drawToken
  deriving DecidableEq

/-- All that callers can do to a supervisor, while deliveries are not locked out. -/
inductive Act
  | deed (deed : Deed)
  /-- A caller tells the extension something. -/
  | tell (event : LifecycleEvent)
  deriving DecidableEq

/-! ## Calls of collaborators -/

/-- A request to bind an extension. -/
structure BindRequest where
  token : BindToken
  extension : Extension
  flags : BindFlags
  deriving DecidableEq

/-- A request for availability signals; all kinds are asked for. -/
structure SubscriptionRequest where
  id : Subscription
  user : UserId
  deriving DecidableEq

/-- How a collaborator's call went: its answer, the world after it, and what was done to
the supervisor during it, in order. -/
structure Reaction (D α W : Type) where
  answer : α
  world : W
  during : List D := []

/-- The collaborators of a supervisor, over a world of type `W`. -/
structure Host (W : Type) where
  /-- Whether a package is installed for a user. -/
  resolvePackage : W → PackageName → UserId → Except Error Unit × W
  /-- Whether an extension's component is there. -/
  resolveComponent : W → Extension → Except Error Unit × W
  /-- The metadata an extension declares. -/
  metadata : W → Extension → Except Error Metadata × W
  bind : W → BindRequest → Reaction Act (Except Error BindHandle) W
  /-- A binding is given back. Like the next three, the call locks nothing, and still is only
  allowed to do deeds. -/
  unbind : W → BindHandle → Reaction Deed Unit W
  subscribe : W → SubscriptionRequest → Reaction Deed (Except Error Unit) W
  unsubscribe : W → Subscription → Reaction Deed Unit W
  /-- A session asks its transport to report its death. -/
  linkToDeath : W → Session → Reaction Deed (Except Error Unit) W
  /-- An event is sent over a transport, and deliveries are locked out until it answers. -/
  dispatch : W → TransportId → LifecycleEvent → Reaction Deed (Except Error Unit) W
  /-- The change listener is called; it can see the status while there is a handle. -/
  listener : W → ListenerId → Extension → Option Status → Reaction Act Unit W

end Supervision
