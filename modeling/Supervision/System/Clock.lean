import Supervision.System.Turning

/-!
# Time

Timers are armed when a retry is scheduled. A timer that is due fires: it posts that its
retry has elapsed. While the loop works, the clock stands still; it moves on only when the
loop has nothing to do and no timer is due, and then no further than to the next timer. So
each timer fires at the instant for which it was armed, behind the commands posted until
then.

`runUntil` lets the loop work up to a given time, leaving alone what is due only then, and
`settle` until it has nothing to do at the present one. Both take a limit on the number of
steps, because a host may keep a loop busy for ever.
-/

namespace Supervision

/-- Whether a timer is due at a time. -/
def Timer.isDue (t : Timer) (now : Nat) : Bool := t.due ≤ now

namespace System

variable {W : Type}

/-- Moves the clock on to a time; it never goes back. -/
def setClock (s : System W) (now : Nat) : System W := { s with clock := max s.clock now }

/-- The first timer that is due. -/
def dueTimer? (s : System W) : Option Timer := s.timers.find? fun t => t.isDue s.clock

/-- Fires a timer. -/
def fire (s : System W) (t : Timer) : System W :=
  { s with timers := s.timers.erase t }.notify (.retryElapsed t.generation)

/-- Fires all timers that are due, before the loop gets to work again. -/
def fireDue (s : System W) : System W :=
  (s.timers.filter fun t => t.isDue s.clock).foldl fire s

/-- The earliest time before `target` at which a timer is due. -/
def nextDue? (s : System W) (target : Nat) : Option Nat :=
  ((s.timers.map Timer.due).filter fun d => d < target).min?

/-- One step of the loop and its timers on the way to `target`, or nothing if there is no
step to take before that time. -/
def advance? (host : Host W) (s : System W) (target : Nat) : Option (System W) :=
  if s.hasTurn then some (s.turn host)
  else match s.dueTimer? with
    | some t => some (s.fire t)
    | none => (s.nextDue? target).map s.setClock

/-- Lets the loop work until there is nothing to do before `target`, in at most `limit`
steps, and moves the clock there. -/
def runUntil (host : Host W) (target : Nat) : Nat → System W → System W
  | 0, s => s.setClock target
  | limit + 1, s =>
    match s.advance? host target with
    | some s => runUntil host target limit s
    | none => s.setClock target

/-- Lets the loop work until it has nothing to do at the present time. -/
def settle (host : Host W) (limit : Nat) (s : System W) : System W :=
  runUntil host s.clock limit s

end System

end Supervision
