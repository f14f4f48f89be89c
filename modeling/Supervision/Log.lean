import Supervision.Inspection

/-!
# Log lines

What a supervisor says of itself, as lines of a log: a level, a message, and the fields
that go with it, each as `name=value`. Most lines name the extension.
-/

namespace Supervision

/-- How much a line of the log matters. -/
inductive Level
  | trace | debug | info | warn | error
  deriving DecidableEq

/-- The name of a level. -/
def Level.text : Level → String
  | .trace => "TRACE"
  | .debug => "DEBUG"
  | .info => "INFO"
  | .warn => "WARN"
  | .error => "ERROR"

/-- A line of the log. -/
structure LogLine where
  level : Level
  message : String
  fields : List (String × String) := []

/-- A line as it is written. -/
def LogLine.text (l : LogLine) : String :=
  l.level.text ++ " " ++ l.message ++
    String.join (l.fields.map fun f => " " ++ f.1 ++ "=" ++ f.2)

/-- The message that announces the replay of an event. -/
def LifecycleEvent.replayMessage : LifecycleEvent → String
  | .added => "Replaying pending onAdded"
  | .startListening => "Replaying onStartListening"
  | .stopListening => "Replaying onStopListening"
  | .click _ => "Replaying pending onClick"
  | .unlockComplete => "Replaying pending onUnlockComplete"
  | .removed => "Replaying pending onRemoved"

/-- The line for what the supervisor of `x` says of itself. -/
def Note.line (x : Extension) (n : Note) : LogLine :=
  let extension := ("extension", x.text)
  match n with
  | .started => ⟨.info, "Supervisor started", [extension]⟩
  | .loopStarted => ⟨.debug, "Supervisor loop started", [extension]⟩
  | .received c => ⟨.trace, "Supervisor command", [("command", c.inspect)]⟩
  | .deferredWithoutSession => ⟨.trace, "Event deferred without a session", []⟩
  | .loopTerminated => ⟨.debug, "Supervisor loop terminated", [extension]⟩
  | .allHandlesDropped => ⟨.debug, "All supervisor handles dropped", [extension]⟩
  | .destroying => ⟨.debug, "Destroying supervisor", [extension]⟩
  | .nothingToFlush => ⟨.debug, "Already connected, nothing to flush", []⟩
  | .bindInFlight => ⟨.trace, "Bind already in flight", []⟩
  | .tooManyFailures count =>
    ⟨.info, "Too many bind failures, waiting for an update",
      [extension, ("retry_count", toString count.toNat)]⟩
  | .notAvailable e => ⟨.debug, "Extension not available", [extension, ("error", e.message)]⟩
  | .binding t attempt =>
    ⟨.info, "Binding extension",
      [extension, ("token", t.text), ("attempt", toString attempt.toNat)]⟩
  | .releasingStale t =>
    ⟨.warn, "Releasing binding left from an earlier attempt", [("token", t.text)]⟩
  | .bindFailed e => ⟨.error, "Failed to bind extension", [extension, ("error", e.message)]⟩
  | .unbinding => ⟨.info, "Unbinding extension", [extension]⟩
  | .connectionIgnored t =>
    ⟨.debug, "Ignoring connection for abandoned bind", [("token", t.text)]⟩
  | .connected t => ⟨.info, "Extension connected", [extension, ("token", t.text)]⟩
  | .linkFailed t e =>
    ⟨.warn, "Failed to link death notification", [("token", t.text), ("error", e.message)]⟩
  | .replayFinished t delivered dropped =>
    ⟨.debug, "Replay finished", [("token", t.text), ("delivered", toString delivered),
      ("dropped", toString dropped)]⟩
  | .deathIgnored t cause =>
    ⟨.trace, "Ignoring death of stale session", [("token", t.text), ("cause", cause.text)]⟩
  | .sessionDied t cause =>
    ⟨.info, "Extension session died", [extension, ("token", t.text), ("cause", cause.text)]⟩
  | .dispatched t e => ⟨.trace, "Dispatched", [("token", t.text), ("method", e.method)]⟩
  | .dispatchFailed t e err =>
    ⟨.warn, "Dispatch failed",
      [("token", t.text), ("method", e.method), ("error", err.message)]⟩
  | .replaying (.click target) =>
    ⟨.debug, (LifecycleEvent.click target).replayMessage, [("target", target.text)]⟩
  | .replaying e => ⟨.debug, e.replayMessage, []⟩
  | .stoppingFirst t => ⟨.warn, "Removed while listening, stopping first", [("token", t.text)]⟩
  | .dropping t k =>
    ⟨.warn, "Dropping pending event, not listening", [("token", t.text), ("event", k.text)]⟩
  | .retryPending => ⟨.trace, "Reconnect already scheduled", []⟩
  | .retryScheduled delay =>
    ⟨.debug, "Scheduling reconnect", [("delay_ms", toString delay.toNat)]⟩
  | .retryIgnored g => ⟨.trace, "Ignoring cancelled reconnect", [("generation", toString g)]⟩
  | .retrying => ⟨.debug, "Retrying bind", []⟩
  | .retrySkipped => ⟨.debug, "Connection no longer desired, skipping reconnect", []⟩
  | .signalStale s => ⟨.trace, "Ignoring signal for closed subscription", [("signal", s.text)]⟩
  | .signalUnrelated s =>
    ⟨.trace, "Ignoring signal for another package", [("signal", s.text)]⟩
  | .availabilityChanged s =>
    ⟨.debug, "Availability changed", [extension, ("signal", s.text)]⟩
  | .bindsAllowedAgain => ⟨.info, "Extension updated, allowing binds again", [extension]⟩
  | .rebinding => ⟨.debug, "Trying to rebind", []⟩
  | .alreadyWatching => ⟨.debug, "Already watching availability", [extension]⟩
  | .watching id =>
    ⟨.debug, "Watching availability", [extension, ("subscription", id.text)]⟩
  | .watchFailed e => ⟨.warn, "Failed to watch availability", [extension, ("error", e.message)]⟩
  | .watchStopped id =>
    ⟨.debug, "Stopped watching availability", [extension, ("subscription", id.text)]⟩
  | .deferred e => ⟨.trace, "Deferred event", [extension, ("method", e.method)]⟩
  | .commandDropped c =>
    ⟨.debug, "Supervisor closed, dropping command", [extension, ("command", c.inspect)]⟩
  | .reportDropped c =>
    ⟨.trace, "Supervisor loop gone, dropping command", [("command", c.inspect)]⟩
  | .alreadyShutDown => ⟨.debug, "Supervisor already shut down", [extension]⟩
  | .metadataFailed e => ⟨.debug, "Metadata lookup failed", [extension, ("error", e.message)]⟩

/-- The line a fact gives in the log, if it is something the supervisor says of itself. -/
def Fact.logLine? (x : Extension) : Fact → Option LogLine
  | .note n => some (n.line x)
  | _ => none

/-- The log lines of a journal, the oldest first. -/
def Journal.logLines (x : Extension) (j : Journal) : List LogLine :=
  j.reverse.filterMap fun r => r.fact.logLine? x

end Supervision
