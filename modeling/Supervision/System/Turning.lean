import Supervision.System.Binding
import Supervision.System.Replaying

/-!
# The loop's turns

The loop takes one command at a time from the inbox, acts on it, and publishes its status
if that has changed. It stops when it is told to, or when nobody holds on to it and the
inbox is empty; in both cases it first takes everything down.
-/

namespace Supervision.System

variable {W : Type}

/-! ## Sessions -/

/-- A session died: it is let go of, and a reconnect is scheduled if a connection is still
wanted and the extension resolves. Only the attempt or session at hand can die. -/
def sessionDied (host : Host W) (s : System W) (token : BindToken) (cause : DeathCause) :
    System W :=
  if s.loop.attempt = some token ∧
      (s.loop.state = .connecting ∨ s.loop.state = .connected) then
    let s := (s.note (.sessionDied token cause)).release host
    if s.loop.desired then
      match s.checkAvailable host with
      | (s, true) => s.scheduleRetry
      | (s, false) => s
    else s
  else s.note (.deathIgnored token cause)

/-- Asks the transport of a new session to report its death. -/
def linkToDeath (host : Host W) (s : System W) (x : Session) : System W :=
  let r := host.linkToDeath s.world x
  let s := s.consult host (.linkToDeath x r.answer) r
  match r.answer with
  | .ok _ => s
  | .error e => s.note (.linkFailed x.token e)

/-- Replays the pending events and lets callers use the session if it accepted them all. -/
def publishSession (host : Host W) (s : System W) (x : Session) : System W × Outcome :=
  match s.replay host x with
  | (s, o) => (if o.failed then s else { s with slot := some x }, o)

/-- The bind in flight led to a connection; any other bind was abandoned. -/
def connected (host : Host W) (s : System W) (token : BindToken) (transport : TransportId) :
    System W :=
  if s.loop.attempt = some token ∧ s.loop.state = .connecting then
    let x : Session := ⟨token, transport⟩
    let s := { s.note (.connected token) with loop.retryCount := 0 }.linkToDeath host x
    let s := { s with loop.session := some x, loop.state := .connected }
    match s.publishSession host x with
    | (s, o) =>
      let s := { s.note (.replayFinished token o.delivered o.dropped) with
        loop.dropped := s.loop.dropped + o.dropped }
      let s := if o.failed then s.sessionDied host token .dispatchFailed else s
      if s.loop.flushing then s.finishFlush host else s
  else s.note (.connectionIgnored token)

/-! ## Retries and signals -/

/-- A retry is due; only the scheduled one counts. -/
def retryElapsed (host : Host W) (s : System W) (generation : Nat) : System W :=
  if s.loop.retry = some generation then
    let s := { s with loop.retry := none }
    if s.loop.desired then (s.note .retrying).bind host else s.note .retrySkipped
  else s.note (.retryIgnored generation)

/-- Tells the change listener, if one is set, that the package changed. -/
def announceChange (host : Host W) (s : System W) : System W :=
  match s.loop.listener with
  | none => s
  | some l =>
    let view := if s.handles = 0 then none else some s.status
    s.consultFreely host (.listener l s.extension) (host.listener s.world l s.extension view)

/-- After giving up, an update allows binds again. -/
def allowBinds (s : System W) : System W :=
  let s := if s.config.maxRetries ≤ s.loop.retryCount then
      { s.note .bindsAllowedAgain with loop.retryCount := 0 }
    else s
  if s.loop.state = .givingUp then { s with loop.state := .unbound } else s

/-- The counter is reset if it is at its limit, and a loop that gave up starts over. -/
theorem exists_allowBinds_eq (s : System W) : ∃ t,
    (s.config.maxRetries ≤ s.loop.retryCount ∧
        t = { s.note .bindsAllowedAgain with loop.retryCount := 0 } ∨
      ¬s.config.maxRetries ≤ s.loop.retryCount ∧ t = s) ∧
      s.allowBinds =
        if t.loop.state = .givingUp then { t with loop.state := .unbound } else t := by
  by_cases h : s.config.maxRetries ≤ s.loop.retryCount
  · exact ⟨_, .inl ⟨h, rfl⟩, by simp only [allowBinds, if_pos h]⟩
  · exact ⟨s, .inr ⟨h, rfl⟩, by simp only [allowBinds, if_neg h]⟩

/-- The open subscription received a signal of ours: it has served its purpose, and a
connection that is wanted is tried again. -/
def availabilityChanged (host : Host W) (s : System W) (x : Signal) (changed : Bool) :
    System W :=
  let s := s.note (.availabilityChanged x)
  let s := if changed then s.announceChange host else s
  let s := (s.unwatch host).allowBinds
  if s.loop.desired then (s.note .rebinding).bind host else s

/-- A subscription received a signal. -/
def signalled (host : Host W) (s : System W) (id : Subscription) (x : Signal) : System W :=
  match s.classify id x with
  | .stale => s.note (.signalStale x)
  | .unrelated => s.note (.signalUnrelated x)
  | .relevant changed => s.availabilityChanged host x changed

/-! ## Publishing and stopping -/

/-- Publishes the status of the loop if it differs from the last one published. -/
def publish (s : System W) : System W :=
  if s.status = s.loop.status then s
  else { s.record (.published s.loop.status) with status := s.loop.status }

/-- Takes everything down. -/
def teardown (host : Host W) (s : System W) : System W :=
  let s := (((s.note .destroying).cancelRetry).unwatch host).release host
  { s with loop.desired := false, loop.flushing := false }

/-- Stops for good; what still waits in the inbox is lost. -/
def stop (s : System W) : System W := { s with phase := .stopped, inbox := [] }

/-- Stops because of a command. -/
def shutDown (host : Host W) (s : System W) : System W :=
  (((s.teardown host).publish).note .loopTerminated).stop

/-- Stops because nobody holds on to the supervisor any more. -/
def close (host : Host W) (s : System W) : System W :=
  (((s.note .allHandlesDropped).teardown host).publish).stop

/-! ## Turns -/

/-- Acts on a command. -/
def obey (host : Host W) (s : System W) : Command → System W
  | .setEnabled enabled => s.setEnabled host enabled
  | .flushAndUnbind => { s with loop.flushing := true }.setEnabled host true
  | .connected token transport => s.connected host token transport
  | .sessionDied token cause => s.sessionDied host token cause
  | .deathCheck none => s.note .deferredWithoutSession
  | .deathCheck (some token) => s.sessionDied host token .dispatchFailed
  | .retryElapsed generation => s.retryElapsed host generation
  | .signal id x => s.signalled host id x
  | .setChangeListener l => { s with loop.listener := l }
  | .barrier ticket => { s with passed := ticket :: s.passed }
  | .shutdown => s.shutDown host

/-- Processes a command that was taken from the inbox. -/
def process (host : Host W) (s : System W) (c : Command) : System W :=
  let s := (s.note (.received c)).obey host c
  if c = .shutdown then s else s.publish

/-- Whether the loop has something to do. -/
def hasTurn (s : System W) : Bool :=
  match s.phase with
  | .ready => true
  | .running => !s.inbox.isEmpty || !s.isHeld
  | .stopped => false

/-- One turn of the loop: it starts, or processes the first command of the inbox, or stops
because no command is left and nobody holds on to it. -/
def turn (host : Host W) (s : System W) : System W :=
  match s.phase with
  | .ready => { s.note .loopStarted with phase := .running }
  | .stopped => s
  | .running =>
    match s.inbox with
    | c :: rest => { s with inbox := rest }.process host c
    | [] => if s.isHeld then s else s.close host

end Supervision.System
