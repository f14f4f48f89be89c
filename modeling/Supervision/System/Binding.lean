import Supervision.System.Delivery
import Supervision.System.Watching

/-!
# Binding and releasing

A bind is tried if none is in flight, if fewer than the allowed number were tried since
the counter was last reset, and if the extension resolves. The counter goes up with each
try; a try that fails schedules the next one. After too many tries the loop gives up until
the extension is updated.

`disconnect` undoes all of it, for a caller or at the end of a flush, and gives the next
request a fresh counter. `release` only lets go of the session and the binding.
-/

namespace Supervision.System

variable {W : Type}

/-! ## Retries -/

/-- Schedules a reconnect, unless one is scheduled. -/
def scheduleRetry (s : System W) : System W :=
  if s.loop.retry.isSome then s.note .retryPending
  else
    let generation := s.loop.generation + 1
    { s.note (.retryScheduled s.config.retryDelay) with
      loop.generation := generation
      loop.retry := some generation
      timers := s.timers ++ [⟨generation, s.clock + s.config.retryDelay.toNat⟩] }

/-- Takes back the scheduled reconnect; its timer, if it has not fired, is disarmed. -/
def cancelRetry (s : System W) : System W :=
  match s.loop.retry with
  | none => s
  | some g =>
    { s with loop.retry := none, timers := s.timers.filter fun t => t.generation != g }

/-! ## Letting go -/

/-- Gives a handle back to the binder. -/
def unbind (host : Host W) (s : System W) (h : BindHandle) : System W :=
  s.consult host (.unbind h) (host.unbind s.world h)

/-- Lets go of the session and of the binding. -/
def release (host : Host W) (s : System W) : System W :=
  let s := { s.vacate with loop.session := none, loop.attempt := none }
  let s := match s.loop.binding with
    | none => s
    | some h => { s with loop.binding := none }.unbind host h
  { s with loop.state := .unbound }

/-- Ends the connection or the attempts to make one, and forgets how many there were. -/
def disconnect (host : Host W) (s : System W) : System W :=
  ({ s.note .unbinding with loop.retryCount := 0 }.cancelRetry).release host

/-- Ends a flush: the pending events were replayed, so no connection is wanted any more. -/
def finishFlush (host : Host W) (s : System W) : System W :=
  { s with loop.flushing := false, loop.desired := false }.disconnect host

/-! ## Binding -/

/-- Stops trying until the extension is updated. -/
def giveUp (host : Host W) (s : System W) : System W :=
  let s := if s.loop.state = .givingUp then s
    else s.note (.tooManyFailures s.loop.retryCount)
  { s with loop.state := .givingUp }.watch host

/-- To give up is to watch; that the loop gave up is only said when it did not say so before. -/
theorem exists_giveUp_eq (host : Host W) (s : System W) : ∃ t,
    (t = s ∨ t = s.note (.tooManyFailures s.loop.retryCount)) ∧
      s.giveUp host = { t with loop.state := .givingUp }.watch host := by
  by_cases h : s.loop.state = .givingUp
  · exact ⟨s, .inl rfl, by simp only [giveUp, if_pos h]⟩
  · exact ⟨_, .inr rfl, by simp only [giveUp, if_neg h]⟩

/-- Keeps an accepted bind, of which a connection may come. -/
def keepBinding (host : Host W) (s : System W) (token : BindToken) (h : BindHandle) :
    System W :=
  let stale := s.loop.binding
  let s := { s with loop.binding := some h }
  let s := match stale with
    | none => s
    | some old => (s.note (.releasingStale old.token)).unbind host old
  { s with loop.attempt := some token, loop.state := .connecting }

/-- Calls the binder with the next token. -/
def tryBind (host : Host W) (s : System W) : System W :=
  let token : BindToken := ⟨s.nextToken⟩
  let request : BindRequest := ⟨token, s.extension, s.config.flags⟩
  let attempt := s.loop.retryCount + 1
  let s := { s with loop.retryCount := attempt, nextToken := s.nextToken + 1 }.note
    (.binding token attempt)
  let r := host.bind s.world request
  let s := s.consultFreely host (.bind request r.answer) r
  match r.answer with
  | .ok h => s.keepBinding host token h
  | .error e => { s.note (.bindFailed e) with loop.state := .unbound }.scheduleRetry

/-- Makes a fresh attempt, if one is allowed and the extension resolves. -/
def attemptBind (host : Host W) (s : System W) : System W :=
  if s.config.maxRetries ≤ s.loop.retryCount then s.giveUp host
  else match s.checkAvailable host with
    | (s, true) => s.tryBind host
    | (s, false) => { s with loop.state := .unbound }

/-- Sees to it that there is a connection or an attempt to make one. With a connection
already there, a flush has nothing to wait for. -/
def bind (host : Host W) (s : System W) : System W :=
  match s.loop.state with
  | .connected => if s.loop.flushing then (s.note .nothingToFlush).finishFlush host else s
  | .connecting => s.note .bindInFlight
  | .unbound => s.attemptBind host
  | .givingUp => s.attemptBind host

/-- A connection is wanted, or not. -/
def setEnabled (host : Host W) (s : System W) (enabled : Bool) : System W :=
  if enabled then { s with loop.desired := true }.bind host
  else { s with loop.desired := false, loop.flushing := false }.disconnect host

end Supervision.System
