import Mathlib.Data.List.Dedup
import Mathlib.Data.List.DropRight
import Supervision.Pending

/-!
# A queue recalls its history

A queue of pending events holds little: a set of kinds, one target and one level. What it holds is
determined by what was done with it (`Pending.Use.queue_after`): the kinds are those that were let
wait since it was last drained, in whatever way and however often, the target is the last one that
was given since then, for a click or on its own, and the level is the last one that was ever set.
So all that can be observed of a queue can be read off its history (`queue_recalls_history`).
-/

namespace Supervision.Pending

/-! ## Histories -/

namespace Action

/-- The kind of the event that an action lets wait. -/
def kind? : Action → Option EventKind
  | .enqueue k => some k
  | .defer e => e.kind?
  | _ => none

/-- The target that an action gives. -/
def target? : Action → Option ClickTarget
  | .setTarget t => some t
  | .defer e => e.target?
  | _ => none

/-- The level that an action sets. -/
def level? : Action → Option Bool
  | .setListening level => some level
  | _ => none

end Action

/-- What was done since the queue was last drained. -/
def recent (as : List Action) : List Action := as.rtakeWhile (· ≠ .drain)

/-- The kinds that were let wait since the queue was last drained, once for each time. -/
def gathered (as : List Action) : List EventKind := (recent as).filterMap Action.kind?

/-- The last target that was given since the queue was last drained. -/
def givenTarget (as : List Action) : Option ClickTarget :=
  ((recent as).filterMap Action.target?).getLast?

/-- The last level that was set; before that, it is off. -/
def givenLevel (as : List Action) : Bool := (as.filterMap Action.level?).getLast?.getD false

section Snoc

variable (as : List Action) (a : Action)

/-- To drain the queue begins a new history. -/
theorem recent_snoc : recent (as ++ [a]) = if a = .drain then [] else recent as ++ [a] := by
  by_cases h : a = .drain
  · simp [recent, h]
  · simp [recent, h]

/-- What is let wait is added to what waited. -/
theorem gathered_snoc (h : a ≠ .drain) :
    gathered (as ++ [a]) = gathered as ++ a.kind?.toList := by
  rw [gathered, recent_snoc, if_neg h, List.filterMap_append]
  cases hk : a.kind? <;> simp [gathered, hk]

/-- What an action says counts, or else what was said before it. -/
theorem getLast?_filterMap_snoc {α β : Type} (f : α → Option β) (xs : List α) (x : α) :
    ((xs ++ [x]).filterMap f).getLast? = (f x).or (xs.filterMap f).getLast? := by
  cases h : f x <;> simp [h]

/-- A target that is given takes the place of the one before. -/
theorem givenTarget_snoc (h : a ≠ .drain) :
    givenTarget (as ++ [a]) = a.target?.or (givenTarget as) := by
  rw [givenTarget, recent_snoc, if_neg h]
  exact getLast?_filterMap_snoc _ _ _

/-- So does a level that is set, and no draining takes it back. -/
theorem givenLevel_snoc : givenLevel (as ++ [a]) = a.level?.getD (givenLevel as) := by
  rw [givenLevel, getLast?_filterMap_snoc, Option.getD_or]
  rfl

theorem gathered_drain : gathered (as ++ [.drain]) = [] := by
  rw [gathered, recent_snoc, if_pos rfl, List.filterMap_nil]

theorem givenTarget_drain : givenTarget (as ++ [.drain]) = none := by
  rw [givenTarget, recent_snoc, if_pos rfl, List.filterMap_nil, List.getLast?_nil]

end Snoc

/-! ## What a queue holds -/

namespace Use

/-- A fresh queue after these actions. -/
def after (as : List Action) : Use := as.foldl (fun u a => (u.apply a).1) {}

theorem after_snoc (as : List Action) (a : Action) :
    after (as ++ [a]) = ((after as).apply a).1 := by
  simp [after]

/-- What is observed first does not depend on what is done later. -/
theorem observe_append (u : Use) (as bs : List Action) :
    u.observe (as ++ bs) = u.observe as ++ (as.foldl (fun u a => (u.apply a).1) u).observe bs := by
  induction as generalizing u with
  | nil => rfl
  | cons a as ih => exact congrArg _ (ih _)

/-- The set of the kinds that were let wait since the queue was last drained. -/
def kindsOf (as : List Action) : KindSet := ⟨fun k => decide (k ∈ gathered as)⟩

@[simp] theorem contains_kindsOf (as : List Action) (k : EventKind) :
    (kindsOf as).contains k = decide (k ∈ gathered as) := rfl

/-- Any action but a drain adds the kind that it lets wait, if it lets one wait. -/
theorem kindsOf_snoc (as : List Action) {a : Action} (h : a ≠ .drain) :
    kindsOf (as ++ [a]) = a.kind?.elim (kindsOf as) (kindsOf as).insert := by
  ext j
  rw [Bool.eq_iff_iff, contains_kindsOf, decide_eq_true_iff, gathered_snoc _ _ h,
    List.mem_append, Option.mem_toList]
  cases a.kind? with
  | none => simp
  | some k => simp [or_comm]

/-- What a queue holds is what its history gives. -/
theorem queue_after (as : List Action) :
    (after as).queue = ⟨kindsOf as, givenTarget as, givenLevel as⟩ := by
  -- a history grows at its end, and only the last action can drain the queue of all before
  induction as using List.reverseRecOn with
  | nil => rfl
  | append_singleton as a ih =>
    rw [after_snoc, givenLevel_snoc]
    by_cases hdrain : a = .drain
    · subst hdrain
      rw [kindsOf, gathered_drain, givenTarget_drain]
      simp only [apply, ih]
      rfl
    · rw [kindsOf_snoc _ hdrain, givenTarget_snoc _ _ hdrain]
      cases a with
      | drain => exact absurd rfl hdrain
      | enqueue k | setTarget t | setListening level | contains k =>
        simp only [apply, ih]
        rfl
      | defer e =>
        simp only [apply, ih]
        cases e <;> rfl

end Use

/-! ## What a queue tells -/

/-- What a snapshot shows, in terms of the history of the queue from which it was drained. -/
structure Recalls (as : List Action) (x : Snapshot) : Prop where
  contains : ∀ k, x.contains k ↔ k ∈ gathered as
  /-- Each kind is in the snapshot once. -/
  kinds : x.kinds.toList.Perm (gathered as).dedup
  size : x.size = (gathered as).dedup.length
  isEmpty : x.isEmpty ↔ gathered as = []
  clickTarget : x.clickTarget? = if .click ∈ gathered as then givenTarget as else none

namespace Use

/-- The kinds of a set are the kinds that were let wait, each once. -/
theorem toList_kindsOf (as : List Action) : (kindsOf as).toList.Perm (gathered as).dedup := by
  have hnodup : (kindsOf as).toList.Nodup := List.Nodup.filter _ (by decide)
  exact (List.perm_ext_iff_of_nodup hnodup (List.nodup_dedup _)).2 fun k => by simp

/-- Nothing waits if nothing was let wait since the queue was last drained. -/
theorem isEmpty_kindsOf (as : List Action) : (kindsOf as).isEmpty ↔ gathered as = [] := by
  rw [KindSet.isEmpty, List.isEmpty_iff, ← List.length_eq_zero_iff,
    (toList_kindsOf as).length_eq, List.length_eq_zero_iff, List.dedup_eq_nil]

/-- A snapshot shows the kinds and the target that the history gives. -/
theorem snapshot_after (as : List Action) :
    (after as).queue.snapshot = ⟨kindsOf as, givenTarget as⟩ := by
  rw [queue_after]
  rfl

/-- A snapshot tells of what was let wait since the queue was last drained. -/
theorem recalls_snapshot (as : List Action) : Recalls as (after as).queue.snapshot := by
  rw [snapshot_after]
  exact
    { contains := fun k => by simp [Snapshot.contains]
      kinds := toList_kindsOf as
      size := (toList_kindsOf as).length_eq
      isEmpty := isEmpty_kindsOf as
      clickTarget := by simp [Snapshot.clickTarget?, Snapshot.contains] }

/-- Two snapshots are equal exactly if they have the same kinds and the same stored target, also
when no click shows it. -/
theorem snapshot_eq_iff (as bs : List Action) :
    (after as).queue.snapshot = (after bs).queue.snapshot ↔
      (∀ k, k ∈ gathered as ↔ k ∈ gathered bs) ∧ givenTarget as = givenTarget bs := by
  simp only [snapshot_after, Snapshot.mk.injEq, KindSet.ext_iff, funext_iff, contains_kindsOf,
    decide_eq_decide]

end Use

open Use in
/-- All that can be observed of a queue on which actions are done is determined by the actions
that were done before. -/
theorem queue_recalls_history (as : List Action) :
    (∀ a, observe (as ++ [a]) =
      observe as ++ [⟨((after as).apply a).2, (after (as ++ [a])).queue⟩]) ∧
    (∀ k, ((after as).apply (.enqueue k)).2 = .flag (decide (k ∉ gathered as))) ∧
    (∀ k, ((after as).apply (.contains k)).2 = .flag (decide (k ∈ gathered as))) ∧
    ((after as).queue.isEmpty ↔ gathered as = []) ∧
    (∃ x earlier, ((after as).apply .drain).2 = .drained x earlier ∧ Recalls as x) ∧
    ((after (as ++ [.drain])).queue = { listening := givenLevel as }) ∧
    ((after as).queue.listening = givenLevel as) ∧
    (∀ level, (after (as ++ [.defer (.ofLevel level)])).queue = (after as).queue) ∧
    (∀ bs, (after as).queue.snapshot = (after bs).queue.snapshot ↔
      (∀ k, k ∈ gathered as ↔ k ∈ gathered bs) ∧ givenTarget as = givenTarget bs) := by
  refine ⟨fun a => ?_, fun k => ?_, fun k => ?_, ?_, ?_, ?_, ?_, fun level => ?_, snapshot_eq_iff as⟩
  · rw [after_snoc]
    exact observe_append {} as [a]
  · simp [apply, queue_after, Pending.contains]
  · simp [apply, queue_after, Pending.contains]
  · rw [queue_after]
    exact isEmpty_kindsOf as
  · exact ⟨_, _, rfl, recalls_snapshot as⟩
  · rw [after_snoc, apply, queue_after]
    rfl
  · rw [queue_after]
  · rw [after_snoc]
    cases level <;> rfl

/-- A target that is given without a click is not shown, but it is compared. -/
example :
    (Use.after [.enqueue .added, .setTarget ⟨7⟩]).queue.snapshot.clickTarget? = none ∧
      (Use.after [.enqueue .added, .setTarget ⟨7⟩]).queue.snapshot ≠
        (Use.after [.enqueue .added]).queue.snapshot := by
  decide

end Supervision.Pending
