import Supervision.System

/-!
# Watching for availability

While the extension does not resolve, or after too many failed binds, the loop watches for
signals. At most one subscription is open; each is used for one relevant signal and then
closed. A signal of another subscription is stale, and one about another package is not
ours.
-/

namespace Supervision

/-- What a delivered signal means. -/
inductive SignalDecision
  | stale
  | unrelated
  /-- It is ours; `changed` says that our package changed. -/
  | relevant (changed : Bool)
  deriving DecidableEq

namespace System

variable {W : Type}

/-- What a signal means that was delivered to the subscription `id`. -/
def classify (s : System W) (id : Subscription) (x : Signal) : SignalDecision :=
  if s.loop.watching ≠ some id then .stale
  else if x.concerns s.extension.package then .relevant (x.kind == .packageChanged)
  else .unrelated

/-- Subscribes to availability signals, unless a subscription is open. -/
def watch (host : Host W) (s : System W) : System W :=
  if s.loop.watching.isSome then s.note .alreadyWatching
  else
    let id : Subscription := ⟨s.nextSubscription⟩
    let request : SubscriptionRequest := ⟨id, s.extension.user⟩
    let s := { s with nextSubscription := s.nextSubscription + 1 }
    let r := host.subscribe s.world request
    let s := s.consult host (.subscribe request r.answer) r
    match r.answer with
    | .ok _ => { s.note (.watching id) with loop.watching := some id }
    | .error e => s.note (.watchFailed e)

/-- Closes the open subscription, if there is one. -/
def unwatch (host : Host W) (s : System W) : System W :=
  match s.loop.watching with
  | none => s
  | some id =>
    let s := { s with loop.watching := none }.note (.watchStopped id)
    s.consult host (.unsubscribe id) (host.unsubscribe s.world id)

/-- Asks the registry for the package and then for the component. -/
def resolve (host : Host W) (s : System W) : System W × Except Error Unit :=
  let r := host.resolvePackage s.world s.extension.package s.extension.user
  let s := s.lookedUp (.resolvePackage s.extension.package s.extension.user r.1) r.2
  match r.1 with
  | .error e => (s, .error e)
  | .ok _ =>
    let r := host.resolveComponent s.world s.extension
    (s.lookedUp (.resolveComponent s.extension r.1) r.2, r.1)

/-- Whether the extension resolves; if not, the loop watches for a change. -/
def checkAvailable (host : Host W) (s : System W) : System W × Bool :=
  match s.resolve host with
  | (s, .ok _) => (s, true)
  | (s, .error e) => ((s.note (.notAvailable e)).watch host, false)

end System

end Supervision
