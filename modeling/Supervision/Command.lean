import Supervision.Event
import Supervision.Signal

/-!
# Commands

Everything that changes the connection reaches the supervisor's loop as a command, one
after another. Callers want a connection or not, ask for a flush, set a listener, or wait
for the loop. The binder and the transports report connections and deaths, the
notification center delivers signals, and the retry timer elapses.

Commands name things by serial numbers that are given out once: a bind by its token, a
subscription, a scheduled retry by its generation, a waiting caller by a ticket.
Transports and listeners are the host's own, so the loop only knows them apart.
-/

namespace Supervision

/-! ## Serial numbers -/

/-- Names one bind request and the session that may come of it. -/
structure BindToken where
  number : Nat
  deriving DecidableEq

/-- A token is shown with its number. -/
def BindToken.text (t : BindToken) : String := "bind#" ++ toString t.number

/-- What the binder gives for an accepted bind, to be handed back when it is released. -/
structure BindHandle where
  token : BindToken
  deriving DecidableEq

/-- Names one subscription to availability signals. -/
structure Subscription where
  serial : Nat
  deriving DecidableEq

/-- A subscription is shown with its serial number. -/
def Subscription.text (s : Subscription) : String := "sub#" ++ toString s.serial

/-- Names a way to reach a connected extension. -/
structure TransportId where
  index : Nat
  deriving DecidableEq

/-- Names a change listener. -/
structure ListenerId where
  index : Nat
  deriving DecidableEq

/-- A connection to the extension: the bind it came of, and the way to reach it. -/
structure Session where
  token : BindToken
  transport : TransportId
  deriving DecidableEq

/-! ## Commands -/

/-- Who found that a session had died. -/
inductive DeathCause
  | disconnected | deathNotification | dispatchFailed
  deriving DecidableEq

/-- The wording of a cause of death. -/
def DeathCause.text : DeathCause → String
  | .disconnected => "disconnected"
  | .deathNotification => "death notification"
  | .dispatchFailed => "dispatch failed"

/-- What the loop can be told. -/
inductive Command
  /-- A connection is wanted, or not. -/
  | setEnabled (enabled : Bool)
  /-- A connection is wanted until the pending events are delivered. -/
  | flushAndUnbind
  /-- The bind of this token led to a connection. -/
  | connected (token : BindToken) (transport : TransportId)
  /-- The connection of this token was lost. -/
  | sessionDied (token : BindToken) (cause : DeathCause)
  /-- A caller's event was deferred, because of a refused dispatch if a token is given. -/
  | deathCheck (failed : Option BindToken)
  /-- The retry of this generation is due. -/
  | retryElapsed (generation : Nat)
  /-- A subscription received a signal. -/
  | signal (subscription : Subscription) (signal : Signal)
  /-- Package changes are to be told to this listener, or to none. -/
  | setChangeListener (listener : Option ListenerId)
  /-- The caller with this ticket waits for the commands before. -/
  | barrier (ticket : Nat)
  /-- The supervisor is to stop. -/
  | shutdown
  deriving DecidableEq

end Supervision
