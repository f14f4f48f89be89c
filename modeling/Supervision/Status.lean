/-!
# Published status

What a supervisor shows of itself: the state of the connection, and the facts about it
that a caller may want to act on.
-/

namespace Supervision

/-- Where the connection stands. -/
inductive ConnectionState
  | unbound | connecting | connected | givingUp
  deriving DecidableEq

namespace ConnectionState

/-- Every state, in the order from no connection to no hope of one. -/
def all : List ConnectionState := [.unbound, .connecting, .connected, .givingUp]

/-- The name of a state. -/
def text : ConnectionState → String
  | .unbound => "unbound"
  | .connecting => "connecting"
  | .connected => "connected"
  | .givingUp => "givingUp"

end ConnectionState

/-- A snapshot of a supervisor. -/
structure Status where
  state : ConnectionState := .unbound
  /-- Binds tried since the counter was last reset. -/
  retryCount : UInt32 := 0
  /-- Whether a connection is wanted. -/
  desired : Bool := false
  /-- Whether availability signals are being watched. -/
  watcherRegistered : Bool := false
  /-- Whether a reconnect is scheduled. -/
  retryScheduled : Bool := false
  /-- Pending events that were dropped because nobody was listening. -/
  droppedEvents : Nat := 0
  deriving DecidableEq

/-- Whether the status shows an established connection. -/
def Status.isConnected (s : Status) : Bool := s.state == .connected

end Supervision
