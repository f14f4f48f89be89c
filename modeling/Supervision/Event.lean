/-!
# Lifecycle events

An extension is told six things: that it was added or removed, that its host starts or
stops listening to it, that it was clicked, and that an unlock was completed. Four of
these are occurrences, which can wait for a connection and therefore have a *kind*. The
two about listening set a *level*: only the last one counts, and none of them ever waits.
-/

namespace Supervision

/-- What a click was aimed at. -/
structure ClickTarget where
  raw : UInt64
  deriving DecidableEq

/-- A click target is shown with its number. -/
def ClickTarget.text (t : ClickTarget) : String := "target#" ++ toString t.raw.toNat

/-! ## Kinds -/

/-- The kinds of events that can wait for a connection. -/
inductive EventKind
  | added | removed | click | unlockComplete
  deriving DecidableEq

/-- Every kind, in the order in which kinds are listed. -/
def EventKind.all : List EventKind := [.added, .removed, .click, .unlockComplete]

/-- The name of a kind. -/
def EventKind.text : EventKind → String
  | .added => "added"
  | .removed => "removed"
  | .click => "click"
  | .unlockComplete => "unlockComplete"

theorem EventKind.mem_all (k : EventKind) : k ∈ EventKind.all := by
  cases k <;> decide

/-! ## Events -/

/-- What an extension can be told. -/
inductive LifecycleEvent
  | added
  | removed
  | startListening
  | stopListening
  | click (target : ClickTarget)
  | unlockComplete
  deriving DecidableEq

namespace LifecycleEvent

/-- The method of the extension that an event calls. -/
def method : LifecycleEvent → String
  | .added => "extension.onAdded"
  | .removed => "extension.onRemoved"
  | .startListening => "extension.onStartListening"
  | .stopListening => "extension.onStopListening"
  | .click _ => "extension.onClick"
  | .unlockComplete => "extension.onUnlockComplete"

/-- An event is shown by its method. -/
def text (e : LifecycleEvent) : String := e.method

/-- The kind of an event; the two about listening have none. -/
def kind? : LifecycleEvent → Option EventKind
  | .added => some .added
  | .removed => some .removed
  | .click _ => some .click
  | .unlockComplete => some .unlockComplete
  | .startListening => none
  | .stopListening => none

/-- The listening level an event sets, if it sets one. -/
def level? : LifecycleEvent → Option Bool
  | .startListening => some true
  | .stopListening => some false
  | _ => none

/-- The target of a click. -/
def target? : LifecycleEvent → Option ClickTarget
  | .click t => some t
  | _ => none

/-- The event that tells of a listening level. -/
def ofLevel : Bool → LifecycleEvent
  | true => .startListening
  | false => .stopListening

/-- An event waits exactly if it sets no level. -/
theorem kind?_eq_none_iff (e : LifecycleEvent) : e.kind? = none ↔ e.level?.isSome := by
  cases e <;> simp [kind?, level?]

theorem level?_ofLevel (b : Bool) : (ofLevel b).level? = some b := by
  cases b <;> rfl

end LifecycleEvent

end Supervision
