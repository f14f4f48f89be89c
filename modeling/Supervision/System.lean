import Supervision.Journal

/-!
# The state of a supervisor

A supervisor is a loop that processes commands, and what its callers share with it. The
loop alone owns the state of the connection (`Loop`). Callers see the pending events, the
*slot* that holds a session while they can use it, and the published status; they and the
collaborators write to the inbox. Who has a handle holds on to the supervisor, and so does
who is in the middle of a call; when nobody does any more, the loop stops.

`System` is all of this with the retry timers, the clock, the serial numbers still to be
given out, the journal of the run and the world of the host. The functions of this module
are the smallest changes: writing the journal, posting a command, and what can be done to
the supervisor while it calls a collaborator.
-/

namespace Supervision

/-! ## The parts -/

/-- What the loop alone knows and changes. -/
structure Loop where
  state : ConnectionState := .unbound
  /-- Whether a connection is wanted. -/
  desired : Bool := false
  /-- Whether to disconnect as soon as the pending events were replayed. -/
  flushing : Bool := false
  /-- Binds tried since the counter was last reset. -/
  retryCount : UInt32 := 0
  /-- The token of the bind in flight or of the live session. -/
  attempt : Option BindToken := none
  /-- The accepted bind that is still to be released. -/
  binding : Option BindHandle := none
  session : Option Session := none
  /-- The generation of the scheduled retry. -/
  retry : Option Nat := none
  /-- The generation given to the last retry that was scheduled. -/
  generation : Nat := 0
  /-- The open subscription to availability signals. -/
  watching : Option Subscription := none
  listener : Option ListenerId := none
  /-- Pending events that were dropped because nobody was listening. -/
  dropped : Nat := 0
  deriving DecidableEq

/-- The status that a state of the loop gives. -/
def Loop.status (l : Loop) : Status where
  state := l.state
  retryCount := l.retryCount
  desired := l.desired
  watcherRegistered := l.watching.isSome
  retryScheduled := l.retry.isSome
  droppedEvents := l.dropped

/-- An armed timer: the retry it is for, and when it is due. -/
structure Timer where
  generation : Nat
  due : Nat
  deriving DecidableEq

/-- Whether the loop has yet to start, processes commands, or has stopped for good. -/
inductive Phase
  | ready | running | stopped
  deriving DecidableEq

/-- A supervisor with everything around it. -/
structure System (W : Type) where
  extension : Extension
  config : Config
  loop : Loop := {}
  pending : Pending := {}
  /-- The session that callers can use. -/
  slot : Option Session := none
  /-- The status last published. -/
  status : Status := {}
  phase : Phase := .ready
  /-- How many handles callers hold. -/
  handles : Nat := 1
  /-- How many callers are in the middle of a call: they tell the extension something, or
  wait for an answer of the loop. Each of them holds on to the supervisor until the call is
  over, whatever becomes of the handles. -/
  calling : Nat := 0
  inbox : List Command := []
  timers : List Timer := []
  /-- Milliseconds since the start. -/
  clock : Nat := 0
  nextToken : Nat := 1
  nextSubscription : Nat := 0
  nextTicket : Nat := 0
  /-- The tickets of the callers whose wait is over. -/
  passed : List Nat := []
  journal : Journal := []
  world : W

namespace System

variable {W : Type}

/-! ## Journal and inbox -/

/-- Writes a fact into the journal. -/
def record (s : System W) (f : Fact) : System W :=
  { s with journal := ⟨s.clock, f⟩ :: s.journal }

/-- Writes down what the supervisor says of itself. -/
def note (s : System W) (n : Note) : System W := s.record (.note n)

/-- Whether a posted command can still be processed. -/
def isOpen (s : System W) : Bool := s.phase != .stopped

/-- Puts a command behind those already waiting. -/
def enqueue (s : System W) (c : Command) : System W := { s with inbox := s.inbox ++ [c] }

/-- Posts a command through a handle; after the stop it is dropped. -/
def submit (s : System W) (c : Command) : System W :=
  if s.isOpen then s.enqueue c else s.note (.commandDropped c)

/-- Whether somebody holds on to the supervisor: by a handle, or because of a call. -/
def isHeld (s : System W) : Bool := s.handles != 0 || s.calling != 0

/-- Whether a command that does not come through a handle is accepted. -/
def accepts (s : System W) : Bool := s.isHeld && s.isOpen

/-- Posts a command that does not come through a handle. Once nobody holds on to the
supervisor it is dropped, although the loop may still be at work. -/
def notify (s : System W) (c : Command) : System W :=
  if !s.isHeld then s.note (.reportDropped c)
  else if s.isOpen then s.enqueue c
  else s

/-! ## Requests and lookups -/

/-- A caller starts a call that takes a while. -/
def enter (s : System W) : System W := { s with calling := s.calling + 1 }

/-- Some calls are over: their callers were answered, or gave up. -/
def leave (s : System W) (count : Nat) : System W :=
  { s with calling := s.calling - count }

/-- A caller asks something of the loop; without a handle nobody can. Who asks to be told
that the loop came this far takes a ticket and waits, and who asks for a shutdown waits
until it is done; after the stop there is nothing to wait for. -/
def ask (s : System W) (r : Request) : System W :=
  if s.handles = 0 then s
  else match r with
    | .setEnabled b => s.submit (.setEnabled b)
    | .flush => s.submit .flushAndUnbind
    | .setListener l => s.submit (.setChangeListener l)
    | .settle =>
      if s.isOpen then
        { s.enqueue (.barrier s.nextTicket) with nextTicket := s.nextTicket + 1 }.enter
      else s
    | .shutdown => if s.isOpen then (s.enqueue .shutdown).enter else s.note .alreadyShutDown

/-- The ticket of a caller who is about to wait for the loop; after the stop none is given. -/
def ticket (s : System W) : Except Error Nat :=
  if s.isOpen then .ok s.nextTicket else .error .supervisorClosed

/-- What a caller with a ticket is told: that the loop came to it, or that it stopped
before; until then the caller waits. -/
def reply? (s : System W) (ticket : Nat) : Option (Except Error Unit) :=
  if s.passed.contains ticket then some (.ok ())
  else if s.isOpen then none
  else some (.error .channelClosed)

/-- The registry has been asked something. -/
def lookedUp (s : System W) (c : Call) (w : W) : System W :=
  { s.record (.call c) with world := w }

/-- Whether the registry's metadata declare the extension active. -/
def isActive (host : Host W) (s : System W) : Bool :=
  match (host.metadata s.world s.extension).1 with
  | .ok m => m.isActive
  | .error _ => false

/-- The metadata of the extension are looked up. -/
def lookUp (host : Host W) (s : System W) : System W :=
  let r := host.metadata s.world s.extension
  let s := s.lookedUp (.metadata s.extension) r.2
  match r.1 with
  | .ok _ => s
  | .error e => s.note (.metadataFailed e)

/-- Something is done to the supervisor. -/
def perform (host : Host W) (s : System W) : Deed → System W
  | .ask r => s.ask r
  | .report r => s.notify r.command
  | .lookUp => if s.handles = 0 then s else s.lookUp host
  | .clone => if s.handles = 0 then s else { s with handles := s.handles + 1 }
  | .drop => { s with handles := s.handles - 1 }
  | .drawToken => { s with nextToken := s.nextToken + 1 }

/-- A collaborator that can only do deeds has been called. -/
def consult {α : Type} (host : Host W) (s : System W) (c : Call) (r : Reaction Deed α W) :
    System W :=
  r.during.foldl (perform host) { s.record (.call c) with world := r.world }

end System

end Supervision
