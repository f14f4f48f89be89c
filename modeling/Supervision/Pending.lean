import Supervision.Event

/-!
# Pending events

Events that found no connection wait here, coalesced: of each kind at most one waits, and
of the clicks only the last target is kept. Beside them stands the listening level, which
is state and not an occurrence, so draining the events leaves it alone.

`KindSet` is the set of waiting kinds, given by membership. `Pending.drain` hands the
events over as a `Snapshot`. A target may be stored although no click waits; a snapshot
does not show such a target, but two snapshots that differ in it are different.
-/

namespace Supervision

/-! ## Sets of kinds -/

/-- A set of kinds of events. -/
@[ext]
structure KindSet where
  contains : EventKind → Bool

namespace KindSet

/-- The set without any kind. -/
def empty : KindSet := ⟨fun _ => false⟩

/-- The set with `k` added. -/
def insert (s : KindSet) (k : EventKind) : KindSet := ⟨fun j => k == j || s.contains j⟩

/-- The kinds of the set, in the order in which kinds are listed. -/
def toList (s : KindSet) : List EventKind := EventKind.all.filter s.contains

/-- How many kinds the set has. -/
def size (s : KindSet) : Nat := s.toList.length

/-- Whether the set has no kind. -/
def isEmpty (s : KindSet) : Bool := s.toList.isEmpty

@[simp] theorem contains_empty (k : EventKind) : empty.contains k = false := rfl

@[simp] theorem contains_insert (s : KindSet) (k j : EventKind) :
    (s.insert k).contains j = (k == j || s.contains j) := rfl

/-- The list of a set has its kinds. -/
@[simp] theorem mem_toList (s : KindSet) (k : EventKind) : k ∈ s.toList ↔ s.contains k := by
  simp [toList, EventKind.mem_all]

/-- A set is determined by its kinds. -/
theorem toList_inj {s t : KindSet} (h : s.toList = t.toList) : s = t := by
  ext k
  rw [Bool.eq_iff_iff, ← mem_toList, ← mem_toList, h]

instance : DecidableEq KindSet := fun s t =>
  if h : s.toList = t.toList then isTrue (toList_inj h) else isFalse fun e => h (e ▸ rfl)

end KindSet

/-! ## Snapshots -/

/-- The events drained at one moment. -/
structure Snapshot where
  kinds : KindSet := .empty
  /-- The last target given, shown or not. -/
  stored : Option ClickTarget := none
  deriving DecidableEq

namespace Snapshot

/-- Whether an event of kind `k` was drained. -/
def contains (s : Snapshot) (k : EventKind) : Bool := s.kinds.contains k

/-- The target of the drained click, if there is a click. -/
def clickTarget? (s : Snapshot) : Option ClickTarget :=
  if s.contains .click then s.stored else none

/-- How many events were drained. -/
def size (s : Snapshot) : Nat := s.kinds.size

/-- Whether nothing was drained. -/
def isEmpty (s : Snapshot) : Bool := s.kinds.isEmpty

end Snapshot

/-! ## The queue -/

/-- The waiting events and the listening level. -/
structure Pending where
  kinds : KindSet := .empty
  target : Option ClickTarget := none
  listening : Bool := false
  deriving DecidableEq

namespace Pending

/-- Whether an event of kind `k` waits. -/
def contains (p : Pending) (k : EventKind) : Bool := p.kinds.contains k

/-- Whether no event waits. -/
def isEmpty (p : Pending) : Bool := p.kinds.isEmpty

/-- Lets an event of kind `k` wait. -/
def enqueue (p : Pending) (k : EventKind) : Pending := { p with kinds := p.kinds.insert k }

/-- Stores the target of a click without letting a click wait. -/
def setTarget (p : Pending) (t : ClickTarget) : Pending := { p with target := some t }

/-- Sets the listening level. -/
def setListening (p : Pending) (level : Bool) : Pending := { p with listening := level }

/-- Lets an event wait, a click with its target; the events about listening never wait. -/
def defer (p : Pending) (e : LifecycleEvent) : Pending :=
  match e.kind? with
  | none => p
  | some k => { p.enqueue k with target := e.target?.or p.target }

/-- The waiting events. -/
def snapshot (p : Pending) : Snapshot := ⟨p.kinds, p.target⟩

/-- The queue after its events were handed over: only the level stays. -/
def drained (p : Pending) : Pending := { listening := p.listening }

@[simp] theorem listening_defer (p : Pending) (e : LifecycleEvent) :
    (p.defer e).listening = p.listening := by
  cases e <;> rfl

/-- A deferred event adds its kind to those that wait. -/
theorem contains_defer (p : Pending) (e : LifecycleEvent) (k : EventKind) :
    (p.defer e).contains k = (e.kind? == some k || p.contains k) := by
  cases e <;> simp [defer, LifecycleEvent.kind?, contains, enqueue]

@[simp] theorem contains_drained (p : Pending) (k : EventKind) : p.drained.contains k = false := rfl

@[simp] theorem listening_drained (p : Pending) : p.drained.listening = p.listening := rfl

/-! ### Using the queue on its own -/

/-- What can be done with a queue. -/
inductive Action
  | enqueue (kind : EventKind)
  | setTarget (target : ClickTarget)
  | defer (event : LifecycleEvent)
  | setListening (level : Bool)
  | contains (kind : EventKind)
  | drain
  deriving DecidableEq

/-- What an action gives. -/
inductive Answer
  | nothing
  | flag (value : Bool)
  /-- The drained events, and the numbers of the equal snapshots that were drained before;
  the snapshot without any event counts as the first. -/
  | drained (snapshot : Snapshot) (earlier : List Nat)

/-- A queue with the snapshots that were drained from it, the oldest first. -/
structure Use where
  queue : Pending := {}
  drained : List Snapshot := [{}]

/-- What an action gives, and the queue after it. -/
structure Observation where
  answer : Answer
  after : Pending

/-- The numbers of the snapshots that equal a given one. -/
def sameAs (s : Snapshot) (earlier : List Snapshot) : List Nat :=
  (List.range earlier.length).filter fun i => earlier[i]? == some s

/-- Does something with a queue. -/
def Use.apply (u : Use) : Action → Use × Answer
  | .enqueue k => ({ u with queue := u.queue.enqueue k }, .flag (!u.queue.contains k))
  | .setTarget t => ({ u with queue := u.queue.setTarget t }, .nothing)
  | .defer e => ({ u with queue := u.queue.defer e }, .nothing)
  | .setListening level => ({ u with queue := u.queue.setListening level }, .nothing)
  | .contains k => (u, .flag (u.queue.contains k))
  | .drain =>
    ({ queue := u.queue.drained, drained := u.drained ++ [u.queue.snapshot] },
      .drained u.queue.snapshot (sameAs u.queue.snapshot u.drained))

/-- What can be observed of a queue on which these actions are done. -/
def Use.observe (u : Use) : List Action → List Observation
  | [] => []
  | a :: as =>
    match u.apply a with
    | (u, r) => ⟨r, u.queue⟩ :: u.observe as

/-- What can be observed of a fresh queue on which these actions are done. -/
def observe (as : List Action) : List Observation := ({} : Use).observe as

end Pending

end Supervision
