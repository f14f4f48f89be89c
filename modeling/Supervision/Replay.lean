import Supervision.Pending

/-!
# The replay plan

When a connection is made, the events that waited for it are told to the extension before
anybody else can reach it, in an order in which it sees a consistent life:

1. added,
2. start listening, if the level is on,
3. the click and the completed unlock, if the level is on; otherwise they are dropped,
4. removed, and before it stop listening if the level is on.

`Replay.plan` is this order. It is fixed before the first event is sent, so a session that
refuses one only decides how far the plan gets.
-/

namespace Supervision.Replay

/-- One thing to do in a replay. -/
inductive Item
  /-- Send an event. -/
  | send (event : LifecycleEvent)
  /-- Drop the pending event of this kind. -/
  | discard (kind : EventKind)
  deriving DecidableEq

/-- The event an item sends. -/
def Item.event? : Item → Option LifecycleEvent
  | .send e => some e
  | .discard _ => none

/-- The kind an item drops. -/
def Item.discarded? : Item → Option EventKind
  | .send _ => none
  | .discard k => some k

/-- What becomes of a pending click. -/
def click (pending : Snapshot) (listening : Bool) : Item :=
  match pending.clickTarget?, listening with
  | some t, true => .send (.click t)
  | _, _ => .discard .click

/-- What becomes of a pending unlock. -/
def unlock (listening : Bool) : Item :=
  if listening then .send .unlockComplete else .discard .unlockComplete

/-- What a replay does with the drained events at a listening level, in order. -/
def plan (pending : Snapshot) (listening : Bool) : List Item :=
  (if pending.contains .added then [.send .added] else []) ++
  (if listening then [.send .startListening] else []) ++
  (if pending.contains .click then [click pending listening] else []) ++
  (if pending.contains .unlockComplete then [unlock listening] else []) ++
  (if pending.contains .removed && listening then [.send .stopListening] else []) ++
  (if pending.contains .removed then [.send .removed] else [])

end Supervision.Replay
