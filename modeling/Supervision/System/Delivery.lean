import Supervision.System

/-!
# Delivery

An event that a caller tells the extension goes to the session in the slot. If there is
none, or if the session refuses the event, the event is deferred; a session that refuses
leaves the slot at once, and the loop is told to look after it. The listening level is
kept in any case, and is sent only to a session.

`act` is all that callers can do, and `consultFreely` a call of a collaborator that may do
the same during the call.
-/

namespace Supervision.System

variable {W : Type}

/-! ## Sending and deferring -/

/-- Sends an event to a session; the answer is whether it was accepted. -/
def forward (host : Host W) (s : System W) (x : Session) (e : LifecycleEvent) :
    System W × Bool :=
  let r := host.dispatch s.world x.transport e
  let s := s.consult host (.dispatch x e r.answer) r
  match r.answer with
  | .ok _ => (s.note (.dispatched x.token e), true)
  | .error err => (s.note (.dispatchFailed x.token e err), false)

/-- Lets an event wait. -/
def defer (s : System W) (e : LifecycleEvent) : System W :=
  { s with pending := s.pending.defer e }

/-- Takes a session that refused a dispatch out of the slot. -/
def vacate (s : System W) : System W := { s with slot := none }

/-! ## What callers tell the extension -/

/-- Delivers an event to the session in the slot or defers it. -/
def deliver (host : Host W) (s : System W) (e : LifecycleEvent) : System W :=
  match s.slot with
  | none => ((s.defer e).note (.deferred e)).submit (.deathCheck none)
  | some x =>
    match s.forward host x e with
    | (s, true) => s
    | (s, false) => ((s.vacate.defer e).note (.deferred e)).submit (.deathCheck (some x.token))

/-- Keeps the listening level and sends it to the session in the slot. -/
def setListening (host : Host W) (s : System W) (level : Bool) : System W :=
  let s := { s with pending := s.pending.setListening level }
  match s.slot with
  | none => s
  | some x =>
    match s.forward host x (.ofLevel level) with
    | (s, true) => s
    | (s, false) => s.vacate.submit (.deathCheck (some x.token))

/-- Tells the extension something: a listening level is kept, all else has to be delivered. -/
def convey (host : Host W) (s : System W) (e : LifecycleEvent) : System W :=
  match e.level? with
  | some level => s.setListening host level
  | none => s.deliver host e

/-- A caller tells the extension something; without a handle nobody can. -/
def tell (host : Host W) (s : System W) (e : LifecycleEvent) : System W :=
  if s.handles = 0 then s
  else ((s.record (.told e s.slot)).enter.convey host e).leave 1

/-- Something is done to the supervisor while deliveries are not locked out. -/
def act (host : Host W) (s : System W) : Act → System W
  | .deed d => s.perform host d
  | .tell e => s.tell host e

/-- A collaborator that can do all that callers can has been called. -/
def consultFreely {α : Type} (host : Host W) (s : System W) (c : Call) (r : Reaction Act α W) :
    System W :=
  r.during.foldl (act host) { s.record (.call c) with world := r.world }

end Supervision.System
