import Supervision.Proofs.Abandonment
import Supervision.Proofs.Stopping

/-!
# Subscriptions

Subscriptions are numbered in the order in which they are asked for, so no two requests bear the
same (`Reachable.asked_eq`). Those that the notification center accepted are closed in that order,
and at most one is open: it is the one that the loop watches (`Tended`).

A subscription is over when it was closed, or when its request was declined. Then it is never that
of the loop again, because each number was asked for once; and all signals for it are ignored,
whatever becomes of later subscriptions (`Retired.ignored`). A signal that the loop acts upon closes
the subscription that it came by, before anything else is tried; so it is the last one of that
subscription (`System.retired_of_relevant`).
-/

namespace Supervision

variable {W : Type} {host : Host W} {s t : System W} {a : Step W} {id : Subscription}

/-! ## Subscriptions in the journal -/

namespace Fact

/-- The subscription that was asked for. -/
def asked? : Fact → Option Subscription
  | .call (.subscribe q _) => some q.id
  | _ => none

/-- The subscription that the notification center accepted. -/
def opened? : Fact → Option Subscription
  | .call (.subscribe q (.ok _)) => some q.id
  | _ => none

/-- The subscription that the notification center declined. -/
def declined? : Fact → Option Subscription
  | .call (.subscribe q (.error _)) => some q.id
  | _ => none

/-- The subscription that was closed. -/
def closed? : Fact → Option Subscription
  | .call (.unsubscribe id) => some id
  | _ => none

variable {f : Fact}

theorem asked?_eq_none (h : f.subscription? = none) : f.asked? = none := by
  unfold asked?
  split
  · cases h
  · rfl

theorem asked?_of_isHearsay (h : f.isHearsay = true) : f.asked? = none := by
  unfold asked?
  split
  · cases h
  · rfl

theorem opened?_eq_none (h : f.isEntry = false) : f.opened? = none := by
  unfold opened?
  split
  · cases h
  · rfl

theorem closed?_eq_none (h : f.isEntry = false) : f.closed? = none := by
  unfold closed?
  split
  · cases h
  · rfl

end Fact

namespace Journal

/-- The subscriptions that were asked for, in order. -/
def asked (j : Journal) : List Subscription := j.chronicle Fact.asked?

/-- The subscriptions that the notification center accepted, in order. -/
def opened (j : Journal) : List Subscription := j.chronicle Fact.opened?

/-- The subscriptions that the notification center declined, in order. -/
def declined (j : Journal) : List Subscription := j.chronicle Fact.declined?

/-- The subscriptions that were closed, in order. -/
def closed (j : Journal) : List Subscription := j.chronicle Fact.closed?

variable {r : Record} {i j : Journal}

theorem asked_cons : asked (r :: j) = j.asked ++ r.fact.asked?.toList := chronicle_cons ..

theorem opened_cons : opened (r :: j) = j.opened ++ r.fact.opened?.toList := chronicle_cons ..

theorem declined_cons : declined (r :: j) = j.declined ++ r.fact.declined?.toList :=
  chronicle_cons ..

theorem closed_cons : closed (r :: j) = j.closed ++ r.fact.closed?.toList := chronicle_cons ..

/-- What was written down later comes later in each chronicle. -/
theorem chronicle_prefix {α : Type} (f : Fact → Option α) (h : i <:+ j) :
    chronicle f i <+: chronicle f j := by
  obtain ⟨new, rfl⟩ := h
  exact ⟨new.reverse.filterMap (f ·.fact), by simp [chronicle]⟩

/-- What was asked for was accepted or declined. -/
theorem asked_perm (j : Journal) : (j.opened ++ j.declined).Perm j.asked := by
  have hfact (f : Fact) : f.opened?.toList ++ f.declined?.toList = f.asked?.toList := by
    cases f with
    | call c =>
      cases c with
      | subscribe q a => cases a <;> rfl
      | _ => rfl
    | _ => rfl
  induction j with
  | nil => exact .nil
  | cons r j ih =>
    rw [List.perm_iff_count] at ih ⊢
    intro id
    have hj := ih id
    rw [opened_cons, declined_cons, asked_cons, ← hfact]
    simp only [List.count_append] at hj ⊢
    omega

end Journal

/-! ## The open subscription -/

/-- What was closed and what the loop watches are what was opened, and what was closed was open and
nothing else was. -/
structure Tended (s : System W) : Prop where
  balance : s.journal.closed ++ s.loop.watching.toList = s.journal.opened
  closing : s.journal.Always fun f older =>
    ∀ id, f = .call (.unsubscribe id) → older.closed ++ [id] = older.opened

namespace Tended

/-- Without an entry the open subscription stays open. -/
theorem of_unbooked (hs : Tended s) (h : Unbooked s t) : Tended t where
  balance := by
    have hclosed : t.journal.closed = s.journal.closed :=
      Journal.chronicle_of_growsBy h.journal fun _ => Fact.closed?_eq_none
    have hopened : t.journal.opened = s.journal.opened :=
      Journal.chronicle_of_growsBy h.journal fun _ => Fact.opened?_eq_none
    rw [hclosed, hopened, h.watching]
    exact hs.balance
  closing := h.journal.induct hs.closing fun r j hr hj => by
    refine Journal.always_cons.2 ⟨fun id hid => ?_, hj⟩
    rw [hid] at hr
    cases hr

/-- A fact that is not about subscriptions leaves the balance as it is. -/
theorem skip (hs : Tended s) {r : Record} (hj : t.journal = r :: s.journal)
    (hw : t.loop.watching = s.loop.watching) (hopened : r.fact.opened? = none)
    (hclosed : r.fact.closed? = none) : Tended t where
  balance := by
    rw [hj, hw, Journal.closed_cons, Journal.opened_cons, hopened, hclosed]
    simpa using hs.balance
  closing := by
    rw [hj]
    refine Journal.always_cons.2 ⟨fun id hid => ?_, hs.closing⟩
    rw [hid] at hclosed
    cases hclosed

/-- Each entry opens a subscription, closes the open one, or leaves it. -/
theorem of_entry {r : Bool} (hs : Tended s) (h : Entry s r t) : Tended t := by
  cases h with
  | @reset n => exact hs.skip (r := ⟨s.clock, .note n⟩) rfl rfl rfl rfl
  | bound => exact hs.skip rfl rfl rfl rfl
  | failed => exact hs.skip rfl rfl rfl rfl
  | unbound => exact hs.skip rfl rfl rfl rfl
  | @subscribed q hw =>
    have hbalance := hs.balance
    rw [hw, Option.toList_none, List.append_nil] at hbalance
    refine ⟨?_, Journal.always_cons.2 ⟨nofun, hs.closing⟩⟩
    simp only [System.record, Journal.closed_cons, Journal.opened_cons, hbalance]
    simp [Fact.closed?, Fact.opened?]
  | refused => exact hs.skip rfl rfl rfl rfl
  | @unsubscribed id hw =>
    have hbalance := hs.balance
    rw [hw, Option.toList_some] at hbalance
    refine ⟨?_, Journal.always_cons.2 ⟨fun id' hid => ?_, hs.closing⟩⟩
    · simp only [System.record, Journal.closed_cons, Journal.opened_cons, ← hbalance]
      simp [Fact.closed?, Fact.opened?]
    · cases hid
      exact hbalance
  | published => exact hs.skip rfl rfl rfl rfl

end Tended

/-- In each reachable state, the loop watches the one subscription that is open. -/
theorem Reachable.tended (hs : Reachable host s) : Tended s := by
  refine hs.books_induct (fun x c w => ?_) (fun _ _ h hs => hs.of_unbooked h)
    fun _ _ _ h hs => hs.of_entry h
  exact ⟨rfl, Journal.always_cons.2 ⟨nofun, Journal.always_nil⟩⟩

/-! ## Numbers -/

/-- What was asked for bears the numbers given out so far. -/
def Numbered (s : System W) : Prop :=
  s.journal.asked = (List.range s.nextSubscription).map Subscription.mk

theorem Numbered.record (hs : Numbered s) {f : Fact} (hf : f.asked? = none) :
    Numbered (s.record f) := by
  have h : (s.record f).journal.asked = s.journal.asked ++ f.asked?.toList :=
    Journal.asked_cons
  rw [Numbered, h, hf, Option.toList_none, List.append_nil]
  exact hs

/-- Each request bears the next number. -/
theorem Numbered.of_stir (hs : Numbered s) (h : Stir s t) : Numbered t := by
  cases h with
  | touched h =>
    cases h with
    | wrote hf => exact hs.record (Fact.asked?_of_isHearsay hf)
    | sent => exact hs.record rfl
    | _ => exact hs
  | wrote hf => exact hs.record (Fact.asked?_eq_none hf)
  | asked =>
    simp only [Numbered, System.record, Journal.asked_cons, List.range_succ, List.map_append]
    rw [hs]
    rfl
  | _ => exact hs

/-- Each request for a subscription bore the next number. -/
theorem Reachable.asked_eq (hs : Reachable host s) : Numbered s := by
  induction hs with
  | spawn => rfl
  | step _ a ih =>
    exact step_stir_induct (motive := Numbered) (fun _ _ _ _ h => h) (fun _ _ h hs => hs.of_stir h)
      ih a

/-- No two requests bear the same number. -/
theorem Reachable.nodup_opened_append_declined (hs : Reachable host s) :
    (s.journal.opened ++ s.journal.declined).Nodup := by
  have hasked : s.journal.asked.Nodup := by
    rw [hs.asked_eq]
    refine List.Pairwise.map _ (fun m n h hmn => h ?_) List.nodup_range
    exact congrArg Subscription.serial hmn
  exact s.journal.asked_perm.nodup_iff.2 hasked

/-! ## Subscriptions that are over -/

/-- The subscription was closed, or its request was declined. -/
def Retired (id : Subscription) (s : System W) : Prop :=
  id ∈ s.journal.closed ∨ id ∈ s.journal.declined

/-- What is over stays over. -/
theorem Retired.of_suffix (h : Retired id s) (hj : s.journal <:+ t.journal) : Retired id t :=
  h.imp ((Journal.chronicle_prefix _ hj).subset ·) ((Journal.chronicle_prefix _ hj).subset ·)

/-- What is over is not watched. -/
theorem Retired.watching_ne (h : Retired id s) (hs : Reachable host s) :
    s.loop.watching ≠ some id := by
  intro hw
  have hbalance := hs.tended.balance
  rw [hw, Option.toList_some] at hbalance
  have hnodup := hs.nodup_opened_append_declined
  rw [← hbalance, List.nodup_append] at hnodup
  obtain ⟨hopened, -, hdeclined⟩ := hnodup
  rcases h with h | h
  · rw [List.nodup_append] at hopened
    exact hopened.2.2 id h id (List.mem_singleton_self id) rfl
  · exact hdeclined id (List.mem_append_right _ (List.mem_singleton_self id)) id h rfl

/-- A signal of any subscription but the open one is stale. -/
theorem System.classify_of_watching_ne (hw : s.loop.watching ≠ some id) (x : Signal) :
    s.classify id x = .stale :=
  if_pos hw

/-- A signal that the loop does not act upon is ignored. -/
theorem System.ignored_signal (hs : Reachable host s) {x : Signal}
    (h : s.command? a = some (.signal id x)) (hx : ∀ changed, s.classify id x ≠ .relevant changed) :
    Ignored (.signal id x) s (s.step host a) := by
  have heard (rest : List Command) : (note { s with inbox := rest }
      (.received (.signal id x))).classify id x = s.classify id x := rfl
  cases hclass : s.classify id x with
  | stale =>
    refine ignored_of_obey hs (.signalStale x) h nofun fun rest => ?_
    simp only [obey, signalled, heard, hclass]
  | unrelated =>
    refine ignored_of_obey hs (.signalUnrelated x) h nofun fun rest => ?_
    simp only [obey, signalled, heard, hclass]
  | relevant changed => exact absurd hclass (hx changed)

/-- The signals for a subscription that is over are ignored, in every run. -/
theorem Retired.ignored (h : Retired id s) (hs : Reachable host s) (as : List (Step W))
    {b : Step W} {x : Signal} (hb : (s.run host as).command? b = some (.signal id x)) :
    Ignored (.signal id x) (s.run host as) ((s.run host as).step host b) := by
  have hlater : Retired id (s.run host as) := h.of_suffix (System.journal_suffix_run host s as)
  refine System.ignored_signal (hs.run as) hb fun changed hclass => ?_
  rw [System.classify_of_watching_ne (hlater.watching_ne (hs.run as))] at hclass
  cases hclass

/-! ## Signals that are acted upon -/

/-- To stop watching closes the open subscription. -/
theorem System.mem_closed_unwatch (host : Host W) (hw : s.loop.watching = some id) :
    id ∈ (s.unwatch host).journal.closed := by
  have h : (s.unwatch host) = ({ s with loop.watching := none }.note (.watchStopped id)).consult
      host (.unsubscribe id) (host.unsubscribe s.world id) := by
    simp only [unwatch, hw]
    rfl
  have hj := (Stirred.of_touched (touched_consult host
    ({ s with loop.watching := none }.note (.watchStopped id)) (.unsubscribe id)
    (host.unsubscribe s.world id))).steady.journal
  rw [h]
  refine (Journal.chronicle_prefix Fact.closed? hj).subset ?_
  simp [record, Journal.chronicle_cons, Fact.closed?]

/-- A signal that the loop acts upon closes the subscription that it came by. -/
theorem System.retired_of_relevant {x : Signal} {changed : Bool}
    (h : s.command? a = some (.signal id x)) (hx : s.classify id x = .relevant changed) :
    Retired id (s.step host a) := by
  obtain ⟨rest, -, -, heq⟩ := exists_step_eq host h nofun
  have hobey := obey_of_relevant (s := note { s with inbox := rest } (.received (.signal id x)))
    host hx
  obtain ⟨t, u, ht, rfl, hchanged⟩ := exists_availabilityChanged_eq host
    (note { s with inbox := rest } (.received (.signal id x))) x changed
  have hclosed : id ∈ (t.unwatch host).journal.closed := by
    refine mem_closed_unwatch host ?_
    rw [ht.loop]
    exact (eq_of_classify_eq_relevant hx).1
  have hrest : Stirred (t.unwatch host) (s.step host a) := by
    rw [heq, hobey, hchanged]
    refine ((stirred_allowBinds (t.unwatch host)).trans ?_).trans (stirred_publish _)
    split
    · exact (stirred_note _ _).trans (stirred_bind host _)
    · exact .refl
  exact .inl ((Journal.chronicle_prefix _ hrest.steady.journal).subset hclosed)

/-- What was opened and not closed is the subscription that the loop watches. None is opened twice,
and each that is closed was open. None is open once the loop has stopped. At most one signal of a
subscription is acted upon: once one was, all others of it are ignored in every run, and so are all
signals of a subscription that was declined; and each signal that is not acted upon is ignored. -/
theorem subscriptions_fire_once (hs : Reachable host s) :
    (∀ id, id ∈ s.journal.opened ∧ id ∉ s.journal.closed ↔ s.loop.watching = some id) ∧
    s.journal.opened.Nodup ∧
    s.journal.closed.Nodup ∧
    s.journal.Always (fun f older => ∀ id, f = .call (.unsubscribe id) →
      id ∈ older.opened ∧ id ∉ older.closed) ∧
    (s.phase = .stopped → s.journal.closed = s.journal.opened) ∧
    (∀ a id x changed, s.command? a = some (.signal id x) → s.classify id x = .relevant changed →
      ∀ as b y, ((s.step host a).run host as).command? b = some (.signal id y) →
        Ignored (.signal id y) ((s.step host a).run host as)
          (((s.step host a).run host as).step host b)) ∧
    (∀ id ∈ s.journal.declined, ∀ as b x, (s.run host as).command? b = some (.signal id x) →
      Ignored (.signal id x) (s.run host as) ((s.run host as).step host b)) ∧
    (∀ a id x, s.command? a = some (.signal id x) →
      (∀ changed, s.classify id x ≠ .relevant changed) →
      Ignored (.signal id x) s (s.step host a)) := by
  have hbalance := hs.tended.balance
  have hopened : s.journal.opened.Nodup := (List.nodup_append.1 hs.nodup_opened_append_declined).1
  have hclosed : s.journal.closed.Nodup := by
    rw [← hbalance] at hopened
    exact (List.nodup_append.1 hopened).1
  refine ⟨fun id => ⟨fun h => ?_, fun hw => ⟨?_, fun h => ?_⟩⟩, hopened, hclosed,
    fun newer r older hj id hid => ?_, fun hstopped => ?_, fun a id x changed ha hx as b y hb => ?_,
    fun id hid as b x hb => Retired.ignored (.inr hid) hs as hb,
    fun a id x ha hx => System.ignored_signal hs ha hx⟩
  · rw [← hbalance, List.mem_append] at h
    exact Option.mem_toList.1 (h.1.resolve_left h.2)
  · rw [← hbalance, hw]
    exact List.mem_append_right _ (List.mem_singleton_self id)
  · exact Retired.watching_ne (.inl h) hs hw
  · -- what was opened before is a part of what was opened
    have hprefix : Journal.opened older <+: s.journal.opened :=
      Journal.chronicle_prefix _ ⟨newer ++ [r], by rw [hj, List.append_assoc]; rfl⟩
    have hnodup := hprefix.sublist.nodup hopened
    rw [← hs.tended.closing newer r older hj id hid] at hnodup ⊢
    refine ⟨List.mem_append_right _ (List.mem_singleton_self id), fun h => ?_⟩
    exact (List.nodup_append.1 hnodup).2.2 id h id (List.mem_singleton_self id) rfl
  · have hw : s.loop.watching = none := congrArg Loop.watching (hs.atRest hstopped).symm
    simpa [hw] using hbalance
  · exact (System.retired_of_relevant ha hx).ignored (hs.step a) as hb

/-- A supervisor whose extension was not there, and whose subscription received two signals before
it was given to the loop. -/
def Scenario.alerted : System World :=
  (System.spawn ⟨⟨0⟩, ⟨"music"⟩, ⟨"player"⟩⟩ {}
      { packageKnown := false, auto := [⟨.userUnlocked, none⟩, ⟨.userUnlocked, none⟩] }).run
    Scenario.host [.turn, .act (.deed (.ask (.setEnabled true))), .turn]

theorem Scenario.reachable_alerted : Reachable Scenario.host alerted :=
  (Reachable.spawn _ _ _ rfl).run _

theorem alerted_acts_upon_first_signal :
    Scenario.alerted.loop.watching = some ⟨0⟩ ∧
    (Scenario.alerted.step Scenario.host .turn).loop.watching = some ⟨1⟩ ∧
    Ignored (.signal ⟨0⟩ ⟨.userUnlocked, none⟩) (Scenario.alerted.step Scenario.host .turn)
      ((Scenario.alerted.step Scenario.host .turn).step Scenario.host .turn) := by
  have hfirst : Scenario.alerted.command? .turn =
      some (.signal ⟨0⟩ ⟨.userUnlocked, none⟩) := rfl
  have hsecond : (Scenario.alerted.step Scenario.host .turn).command? .turn =
      some (.signal ⟨0⟩ ⟨.userUnlocked, none⟩) := rfl
  obtain ⟨hactive, -, -, -, -, honce, -⟩ := subscriptions_fire_once Scenario.reachable_alerted
  have hw := (hactive ⟨0⟩).1 ⟨List.mem_singleton_self _, List.not_mem_nil⟩
  exact ⟨hw, rfl, honce .turn ⟨0⟩ _ false hfirst rfl [] .turn _ hsecond⟩

end Supervision
