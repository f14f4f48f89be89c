import Supervision.Host
import Supervision.Replay

/-!
# The journal

Everything that happens in a run is written into a journal: what the supervisor says of
itself (`Note`), the calls of its collaborators with their answers (`Call`), what callers
tell the extension and to which session, the plan of each replay, and each status that is
published. The journal only grows; its newest record stands first, and each record bears
the time at which it was written.
-/

namespace Supervision

/-- What a supervisor says of itself. -/
inductive Note
  -- the loop
  | started
  | loopStarted
  | received (command : Command)
  | deferredWithoutSession
  | loopTerminated
  | allHandlesDropped
  | destroying
  -- binding
  | nothingToFlush
  | bindInFlight
  | tooManyFailures (retryCount : UInt32)
  | notAvailable (error : Error)
  | binding (token : BindToken) (attempt : UInt32)
  | releasingStale (token : BindToken)
  | bindFailed (error : Error)
  | unbinding
  -- sessions
  | connectionIgnored (token : BindToken)
  | connected (token : BindToken)
  | linkFailed (token : BindToken) (error : Error)
  | replayFinished (token : BindToken) (delivered dropped : Nat)
  | deathIgnored (token : BindToken) (cause : DeathCause)
  | sessionDied (token : BindToken) (cause : DeathCause)
  | dispatched (token : BindToken) (event : LifecycleEvent)
  | dispatchFailed (token : BindToken) (event : LifecycleEvent) (error : Error)
  -- replay
  | replaying (event : LifecycleEvent)
  | stoppingFirst (token : BindToken)
  | dropping (token : BindToken) (kind : EventKind)
  -- retries
  | retryPending
  | retryScheduled (delay : UInt64)
  | retryIgnored (generation : Nat)
  | retrying
  | retrySkipped
  -- availability
  | signalStale (signal : Signal)
  | signalUnrelated (signal : Signal)
  | availabilityChanged (signal : Signal)
  | bindsAllowedAgain
  | rebinding
  | alreadyWatching
  | watching (subscription : Subscription)
  | watchFailed (error : Error)
  | watchStopped (subscription : Subscription)
  -- callers
  | deferred (event : LifecycleEvent)
  | commandDropped (command : Command)
  | reportDropped (command : Command)
  | alreadyShutDown
  | metadataFailed (error : Error)
  deriving DecidableEq

/-- A call of a collaborator, with its answer. -/
inductive Call
  | resolvePackage (package : PackageName) (user : UserId) (answer : Except Error Unit)
  | resolveComponent (extension : Extension) (answer : Except Error Unit)
  | metadata (extension : Extension)
  | bind (request : BindRequest) (answer : Except Error BindHandle)
  | unbind (handle : BindHandle)
  | subscribe (request : SubscriptionRequest) (answer : Except Error Unit)
  | unsubscribe (id : Subscription)
  | linkToDeath (session : Session) (answer : Except Error Unit)
  | dispatch (session : Session) (event : LifecycleEvent) (answer : Except Error Unit)
  | listener (id : ListenerId) (extension : Extension)

/-- Something that happened. -/
inductive Fact
  | note (note : Note)
  | call (call : Call)
  /-- A caller told the extension something, while this session was in the slot. -/
  | told (event : LifecycleEvent) (session : Option Session)
  /-- A replay to a new session began, by this plan. -/
  | planned (session : Session) (plan : List Replay.Item)
  /-- A status that differs from the last one was published. -/
  | published (status : Status)

/-- Something that happened, and when. -/
structure Record where
  time : Nat
  fact : Fact

/-- What happened in a run, the newest first. -/
abbrev Journal := List Record

end Supervision
