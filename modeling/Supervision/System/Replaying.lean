import Supervision.System.Delivery

/-!
# Replaying

A new session is told the pending events by the replay plan, drawn up from the events
drained and the listening level at that moment. Each event is sent until one is refused;
that event and those behind it are deferred again, but the plan is still gone through:
what it drops is dropped, and when it comes to stopping before the removal, the level is
turned off.
-/

namespace Supervision.System

variable {W : Type}

/-- How a replay went. -/
structure Outcome where
  /-- How many events were accepted. -/
  delivered : Nat := 0
  /-- How many pending events were dropped. -/
  dropped : Nat := 0
  /-- Whether the session refused an event. -/
  failed : Bool := false
  deriving DecidableEq

/-- Says what is about to be replayed. A removal is announced before the stop that it
brings about; `listening` is the level the plan was drawn up for. -/
def announce (s : System W) (x : Session) (listening : Bool) : LifecycleEvent → System W
  | .stopListening => (s.note (.replaying .removed)).note (.stoppingFirst x.token)
  | .removed => if listening then s else s.note (.replaying .removed)
  | e => s.note (.replaying e)

/-- Turns the level off if `e` is the stop before a removal. -/
def lower (s : System W) (e : LifecycleEvent) : System W :=
  if e = .stopListening then { s with pending := s.pending.setListening false } else s

/-- Sends an event of the plan, or defers it if the session has refused one before. -/
def replayEvent (host : Host W) (x : Session) (s : System W) (o : Outcome)
    (e : LifecycleEvent) : System W × Outcome :=
  if o.failed then (s.defer e, o)
  else match s.forward host x e with
    | (s, true) => (s, { o with delivered := o.delivered + 1 })
    | (s, false) => (s.defer e, { o with failed := true })

/-- Does one thing of the plan. -/
def replayItem (host : Host W) (x : Session) (listening : Bool) (so : System W × Outcome) :
    Replay.Item → System W × Outcome
  | .send e => replayEvent host x ((so.1.announce x listening e).lower e) so.2 e
  | .discard k => (so.1.note (.dropping x.token k), { so.2 with dropped := so.2.dropped + 1 })

/-- Drains the pending events and tells them to a new session. -/
def replay (host : Host W) (s : System W) (x : Session) : System W × Outcome :=
  let listening := s.pending.listening
  let plan := Replay.plan s.pending.snapshot listening
  plan.foldl (replayItem host x listening)
    ({ s.record (.planned x plan) with pending := s.pending.drained }, {})

end Supervision.System
