import Supervision.Proofs.Abandonment
import Supervision.Proofs.Stirring

/-!
# What the change listener is told

A listener is told of a change of the package, and of nothing else. All that the loop does apart
from that calls no listener and leaves the one that is set (`Hushed`), whatever callers and
collaborators do in the meantime; only the command to set one changes it. So a step calls a listener
exactly if it processes a signal that heralds a change (`System.heralds`) while one is set
(`System.announcements_step`), and it calls that one, once, before all else that the signal gives
rise to (`System.informs_step`).

Along a run, the listeners that were called are those that its steps address, in order, and the
listener that is set is the last one that a command set (`announcements_are_exact`).
-/

namespace Supervision

variable {W : Type} {host : Host W} {s t u : System W}

/-! ## Announcements -/

/-- The listener that was called, with the extension that it was told of. -/
def Fact.listener? : Fact → Option (ListenerId × Extension)
  | .call (.listener l x) => some (l, x)
  | _ => none

/-- The calls of change listeners, the oldest first. -/
def Journal.announcements (j : Journal) : List (ListenerId × Extension) :=
  j.chronicle Fact.listener?

/-- The listener that a command sets, or that none is to be set. -/
def Command.listener? : Command → Option (Option ListenerId)
  | .setChangeListener l => some l
  | _ => none

namespace System

/-- The command is a signal of the open subscription that the package of the extension changed. -/
def heralds (s : System W) : Command → Bool
  | .signal id x => s.loop.watching == some id && x.kind == .packageChanged &&
      x.package == some s.extension.package
  | _ => false

/-- The listener that a step calls. -/
def addressee? (s : System W) (a : Step W) : Option ListenerId :=
  if (s.command? a).any s.heralds then s.loop.listener else none

/-- The listeners that a run calls, in order. -/
def addressees (host : Host W) (s : System W) : List (Step W) → List ListenerId
  | [] => []
  | a :: as => (s.addressee? a).toList ++ (s.step host a).addressees host as

end System

/-! ## No listener is called -/

/-- No listener was called, and the one that was set still is. -/
structure Hushed (s t : System W) : Prop where
  listener : t.loop.listener = s.loop.listener
  journal : s.journal.GrowsBy (·.listener? = none) t.journal

namespace Hushed

theorem refl (s : System W) : Hushed s s := ⟨rfl, .refl _⟩

theorem trans (h : Hushed s t) (h' : Hushed t u) : Hushed s u :=
  ⟨h'.listener.trans h.listener, h.journal.trans h'.journal⟩

/-- The announcements stand while no listener is called. -/
theorem announcements (h : Hushed s t) : t.journal.announcements = s.journal.announcements :=
  Journal.chronicle_of_growsBy h.journal fun _ => id

end Hushed

/-- No call of a listener is hearsay. -/
theorem Fact.listener?_of_isHearsay {f : Fact} (h : f.isHearsay = true) : f.listener? = none := by
  unfold isHearsay at h
  split at h <;> first | rfl | simp at h

/-- Callers and collaborators tell the listener nothing. -/
theorem Touched.hushed (h : Touched s t) : Hushed s t := by
  refine h.induct (motive := Hushed s) (.refl s) fun s t h hs => hs.trans ?_
  cases h with
  | wrote hf => exact ⟨rfl, .cons (Fact.listener?_of_isHearsay hf)⟩
  | sent => exact ⟨rfl, .cons rfl⟩
  | _ => exact { Hushed.refl s with }

namespace System

theorem hushed_record {f : Fact} (hf : f.listener? = none) : Hushed s (s.record f) :=
  ⟨rfl, .cons hf⟩

theorem hushed_note (s : System W) (n : Note) : Hushed s (s.note n) := hushed_record rfl

/-! ### Calls and replays -/

/-- Whoever else is called, the listener is not. -/
theorem hushed_consult (host : Host W) (s : System W) {α : Type} {c : Call}
    (hc : (Fact.call c).listener? = none) (r : Reaction Deed α W) : Hushed s (s.consult host c r) :=
  (hushed_record hc).trans (touched_consult host s c r).hushed

/-- To forward an event calls the session alone. -/
theorem hushed_forward (host : Host W) (s : System W) (x : Session) (e : LifecycleEvent) :
    Hushed s (s.forward host x e).1 := by
  obtain ⟨-, a, h⟩ := exists_touched_forward host s x e
  exact (hushed_record rfl).trans h.hushed

theorem hushed_announce (s : System W) (x : Session) (listening : Bool) (e : LifecycleEvent) :
    Hushed s (s.announce x listening e) := by
  cases e with
  | stopListening => exact (hushed_note s _).trans (hushed_note _ _)
  | removed =>
    simp only [announce]
    split
    · exact .refl s
    · exact hushed_note s _
  | _ => exact hushed_note s _

theorem hushed_replayItem (host : Host W) (x : Session) (listening : Bool) (s : System W)
    (o : Outcome) (i : Replay.Item) : Hushed s (replayItem host x listening (s, o) i).1 := by
  cases i with
  | discard k => exact hushed_note s _
  | send e =>
    have hlowered : Hushed s ((s.announce x listening e).lower e) := by
      rw [lower_eq]
      exact { hushed_announce s x listening e with }
    have hforward := hlowered.trans (hushed_forward host _ x e)
    simp only [replayItem, replayEvent]
    split
    · exact { hlowered with }
    · split <;> rename_i heq <;> rw [heq] at hforward
      · exact hforward
      · exact { hforward with }

/-- The listener hears nothing of a replay. -/
theorem hushed_replay (host : Host W) (s : System W) (x : Session) :
    Hushed s (s.replay host x).1 := by
  have h : Hushed s { s.record (.planned x (Replay.plan s.pending.snapshot s.pending.listening))
      with pending := s.pending.drained } := ⟨rfl, .cons rfl⟩
  simp only [replay]
  exact List.foldlRecOn (motive := fun so : System W × Outcome => Hushed s so.1) _ _ h
    fun so ht i _ => ht.trans (hushed_replayItem host x _ so.1 so.2 i)

/-! ### Watching and retries -/

theorem hushed_watch (host : Host W) (s : System W) : Hushed s (s.watch host) := by
  unfold watch
  split
  · exact hushed_note s _
  · have hs : Hushed s { s with nextSubscription := s.nextSubscription + 1 } := ⟨rfl, .refl _⟩
    have h := fun q a => hs.trans (hushed_consult host
      { s with nextSubscription := s.nextSubscription + 1 } (c := .subscribe q a) rfl
      (host.subscribe s.world q))
    simp only
    split
    · exact { (h _ _).trans (hushed_note _ _) with }
    · exact (h _ _).trans (hushed_note _ _)

/-- Closing the subscription comes to asking the notification center. -/
theorem hushed_of_watching (host : Host W) {id : Subscription} (hw : s.loop.watching = some id) :
    Hushed (({ s with loop.watching := none }.note (.watchStopped id)).record
      (.call (.unsubscribe id))) (s.unwatch host) := by
  simp only [unwatch, hw]
  exact (touched_consult host _ _ _).hushed

theorem hushed_unwatch (host : Host W) (s : System W) : Hushed s (s.unwatch host) := by
  cases hw : s.loop.watching with
  | none =>
    simp only [unwatch, hw]
    exact .refl s
  | some id =>
    have h : Hushed s ({ s with loop.watching := none }.note (.watchStopped id)) :=
      ⟨rfl, .cons rfl⟩
    exact (h.trans (hushed_record rfl)).trans (hushed_of_watching host hw)

/-- That the extension does not resolve is not announced. -/
theorem hushed_checkAvailable (host : Host W) (s : System W) :
    Hushed s (s.checkAvailable host).1 := by
  have h : Hushed s (s.resolve host).1 := by
    have hasked : ∀ (t : System W) (c : Call) w, (Fact.call c).listener? = none →
        Hushed t (t.lookedUp c w) := fun _ _ _ hc => ⟨rfl, .cons hc⟩
    simp only [resolve]
    split
    · exact hasked _ _ _ rfl
    · exact (hasked _ _ _ rfl).trans (hasked _ _ _ rfl)
  unfold checkAvailable
  split <;> rename_i heq <;> rw [heq] at h
  · exact h
  · exact (h.trans (hushed_note _ _)).trans (hushed_watch host _)

theorem hushed_scheduleRetry (s : System W) : Hushed s s.scheduleRetry := by
  unfold scheduleRetry
  split
  · exact hushed_note s _
  · exact ⟨rfl, .cons rfl⟩

theorem hushed_cancelRetry (s : System W) : Hushed s s.cancelRetry := by
  unfold cancelRetry
  split
  · exact .refl s
  · exact ⟨rfl, .refl _⟩

/-! ### Binding and letting go -/

theorem hushed_release (host : Host W) (s : System W) : Hushed s (s.release host) := by
  simp only [release]
  split
  · exact ⟨rfl, .refl _⟩
  · rename_i b _
    have h : Hushed s
        { s.vacate with loop.session := none, loop.attempt := none, loop.binding := none } :=
      ⟨rfl, .refl _⟩
    exact { h.trans (hushed_consult host _ (c := .unbind b) rfl (host.unbind s.world b)) with }

theorem hushed_disconnect (host : Host W) (s : System W) : Hushed s (s.disconnect host) := by
  have h : Hushed s { s.note .unbinding with loop.retryCount := 0 } := ⟨rfl, .cons rfl⟩
  exact (h.trans (hushed_cancelRetry _)).trans (hushed_release host _)

theorem hushed_finishFlush (host : Host W) (s : System W) : Hushed s (s.finishFlush host) := by
  have h : Hushed s { s with loop.flushing := false, loop.desired := false } := ⟨rfl, .refl _⟩
  exact h.trans (hushed_disconnect host _)

theorem hushed_endFlush (host : Host W) (s : System W) : Hushed s (s.endFlush host) := by
  unfold endFlush
  split
  · exact hushed_finishFlush host s
  · exact .refl s

/-- That the loop gave up is not announced. -/
theorem hushed_giveUp (host : Host W) (s : System W) : Hushed s (s.giveUp host) := by
  obtain ⟨t, ht, heq⟩ := exists_giveUp_eq host s
  have h : Hushed s t := by
    rcases ht with rfl | rfl
    · exact .refl _
    · exact hushed_note s _
  have h' : Hushed s { t with loop.state := .givingUp } := { h with }
  rw [heq]
  exact h'.trans (hushed_watch host _)

theorem hushed_keepBinding (host : Host W) (s : System W) (token : BindToken) (b : BindHandle) :
    Hushed s (s.keepBinding host token b) := by
  have h : Hushed s { s with loop.binding := some b } := ⟨rfl, .refl _⟩
  simp only [keepBinding]
  split
  · exact { h with }
  · exact { (h.trans (hushed_note _ _)).trans (hushed_consult host _ rfl _) with }

theorem hushed_tryBind (host : Host W) (s : System W) : Hushed s (s.tryBind host) := by
  have hcounted : Hushed s s.trying := ⟨rfl, .cons rfl⟩
  obtain ⟨t, ⟨b, ht, heq⟩ | ⟨e, ht, heq⟩⟩ := exists_tryBind_eq host s
  · have h := (hcounted.trans (hushed_record rfl)).trans ht.hushed
    rw [heq]
    exact h.trans (hushed_keepBinding host _ _ _)
  · have h := (hcounted.trans (hushed_record rfl)).trans ht.hushed
    have hfailed : Hushed s { t.note (.bindFailed e) with loop.state := .unbound } :=
      { h.trans (hushed_note _ (.bindFailed e)) with }
    rw [heq]
    exact hfailed.trans (hushed_scheduleRetry _)

theorem hushed_attemptBind (host : Host W) (s : System W) : Hushed s (s.attemptBind host) := by
  have h := hushed_checkAvailable host s
  unfold attemptBind
  split
  · exact hushed_giveUp host s
  · split <;> rename_i heq <;> rw [heq] at h
    · exact h.trans (hushed_tryBind host _)
    · exact { h with }

/-- So the listener hears nothing of how the loop sees to its connection. -/
theorem hushed_bind (host : Host W) (s : System W) : Hushed s (s.bind host) := by
  unfold bind
  split
  · split
    · exact (hushed_note s _).trans (hushed_finishFlush host _)
    · exact .refl s
  · exact hushed_note s _
  · exact hushed_attemptBind host s
  · exact hushed_attemptBind host s

/-- What callers request of the loop is not announced. -/
theorem hushed_setEnabled (host : Host W) (s : System W) (enabled : Bool) :
    Hushed s (s.setEnabled host enabled) := by
  unfold setEnabled
  split
  · have h : Hushed s { s with loop.desired := true } := ⟨rfl, .refl _⟩
    exact h.trans (hushed_bind host _)
  · have h : Hushed s { s with loop.desired := false, loop.flushing := false } := ⟨rfl, .refl _⟩
    exact h.trans (hushed_disconnect host _)

/-! ### Commands -/

/-- The death of a session is not announced, since it is no change of the package. -/
theorem hushed_sessionDied (host : Host W) (s : System W) (token : BindToken)
    (cause : DeathCause) : Hushed s (s.sessionDied host token cause) := by
  unfold sessionDied
  split
  · have h := (hushed_note s (.sessionDied token cause)).trans (hushed_release host _)
    simp only
    generalize (s.note (.sessionDied token cause)).release host = t at h ⊢
    have hc := h.trans (hushed_checkAvailable host t)
    split
    · split <;> rename_i heq <;> rw [heq] at hc
      · exact hc.trans (hushed_scheduleRetry _)
      · exact hc
    · exact h
  · exact hushed_note s _

theorem hushed_join (host : Host W) (s : System W) (x : Session) :
    Hushed s (s.join host x).1 := by
  have hnoted : Hushed s { s.note (.connected x.token) with loop.retryCount := 0 } :=
    ⟨rfl, .cons rfl⟩
  have hlinked : Hushed s
      ({ s.note (.connected x.token) with loop.retryCount := 0 }.linkToDeath host x) := by
    have h := fun a => hnoted.trans (hushed_consult host _ (c := .linkToDeath x a) rfl
      (host.linkToDeath s.world x))
    simp only [linkToDeath]
    split
    · exact h _
    · exact (h _).trans (hushed_note _ _)
  unfold join
  generalize { s.note (.connected x.token) with loop.retryCount := 0 }.linkToDeath host x = v
    at hlinked ⊢
  have hjoined : Hushed s { v with loop.session := some x, loop.state := .connected } :=
    { hlinked with }
  have hreplayed := hjoined.trans (hushed_replay host _ x)
  simp only [publishSession]
  split
  · exact hreplayed
  · exact { hreplayed with }

theorem hushed_connected (host : Host W) (s : System W) (token : BindToken)
    (transport : TransportId) : Hushed s (s.connected host token transport) := by
  by_cases h : s.loop.attempt = some token ∧ s.loop.state = .connecting
  · have hjoined := hushed_join host s ⟨token, transport⟩
    rw [connected_eq host transport h.1 h.2]
    generalize s.join host ⟨token, transport⟩ = j at hjoined ⊢
    have hcounted : Hushed s { j.1.note (.replayFinished token j.2.delivered j.2.dropped) with
        loop.dropped := j.1.loop.dropped + j.2.dropped } :=
      { hjoined.trans (hushed_note _ (.replayFinished token j.2.delivered j.2.dropped)) with }
    refine Hushed.trans (hcounted.trans ?_) (hushed_endFlush host _)
    split
    · exact hushed_sessionDied host _ token _
    · exact .refl _
  · rw [connected, if_neg h]
    exact hushed_note s _

theorem hushed_retryElapsed (host : Host W) (s : System W) (generation : Nat) :
    Hushed s (s.retryElapsed host generation) := by
  have h : Hushed s { s with loop.retry := none } := ⟨rfl, .refl _⟩
  unfold retryElapsed
  split
  · simp only
    split
    · exact (h.trans (hushed_note _ _)).trans (hushed_bind host _)
    · exact h.trans (hushed_note _ _)
  · exact hushed_note s _

/-- Once the listener was told, an update allows binds again without another call. -/
theorem hushed_allowBinds (s : System W) : Hushed s s.allowBinds := by
  obtain ⟨t, ht, heq⟩ := exists_allowBinds_eq s
  have h : Hushed s t := by
    rcases ht with ⟨-, rfl⟩ | ⟨-, rfl⟩
    · exact ⟨rfl, .cons rfl⟩
    · exact .refl _
  rw [heq]
  split
  · exact { h with }
  · exact h

/-- After the subscription was closed, a connection that is wanted is tried again. -/
theorem hushed_resume (host : Host W) (s : System W) : Hushed s
    (if s.allowBinds.loop.desired then (s.allowBinds.note .rebinding).bind host
      else s.allowBinds) := by
  have h := hushed_allowBinds s
  split
  · exact (h.trans (hushed_note _ _)).trans (hushed_bind host _)
  · exact h

/-- A status is published, not announced. -/
theorem hushed_publish (s : System W) : Hushed s s.publish := by
  unfold publish
  split
  · exact .refl s
  · exact ⟨rfl, .cons rfl⟩

theorem hushed_teardown (host : Host W) (s : System W) : Hushed s (s.teardown host) := by
  have h := (hushed_note s .destroying).trans (hushed_cancelRetry _)
  exact { (h.trans (hushed_unwatch host _)).trans (hushed_release host _) with }

/-- The listener is not told when the loop stops. -/
theorem hushed_shutDown (host : Host W) (s : System W) : Hushed s (s.shutDown host) := by
  have h := (hushed_teardown host s).trans (hushed_publish _)
  exact { h.trans (hushed_note _ .loopTerminated) with }

/-! ## What a signal says -/

/-- A signal heralds a change if it is of the open subscription and of our package. -/
theorem heralds_signal {id : Subscription} {x : Signal} :
    s.heralds (.signal id x) = true ↔ s.loop.watching = some id ∧ x.kind = .packageChanged ∧
      x.package = some s.extension.package := by
  simp [heralds, and_assoc]

/-- A command heralds a change exactly if it is a signal of ours that says so. -/
theorem classify_of_heralds {c : Command} (h : s.heralds c = true) : ∃ id x,
    c = .signal id x ∧ s.loop.watching = some id ∧ s.classify id x = .relevant true := by
  cases c with
  | signal id x =>
    obtain ⟨hw, hk, hp⟩ := heralds_signal.1 h
    have hconcerns : x.concerns s.extension.package = true := by simp [Signal.concerns, hp]
    refine ⟨id, x, rfl, hw, ?_⟩
    simp [classify, hw, hconcerns, hk]
  | _ => cases h

/-- What is classified as a change is heralded. -/
theorem heralds_of_classify {id : Subscription} {x : Signal}
    (h : s.classify id x = .relevant true) : s.heralds (.signal id x) = true := by
  obtain ⟨hw, hconcerns⟩ := eq_of_classify_eq_relevant h
  have hk : x.kind = .packageChanged := by
    simpa [classify, hw, hconcerns] using h
  refine heralds_signal.2 ⟨hw, hk, ?_⟩
  simpa [Signal.concerns, hk, SignalKind.isPackageScoped] using hconcerns

/-- Unless a change is announced, a signal of ours says nothing to a listener. -/
theorem hushed_signalled (host : Host W) {id : Subscription} {x : Signal}
    (h : s.heralds (.signal id x) = true → s.loop.listener = none) :
    Hushed s (s.signalled host id x) := by
  unfold signalled
  split
  · exact hushed_note s _
  · exact hushed_note s _
  · rename_i changed hx
    have htold : Hushed s (if changed then (s.note (.availabilityChanged x)).announceChange host
        else s.note (.availabilityChanged x)) := by
      cases changed with
      | false => exact hushed_note s _
      | true =>
        simp only [announceChange, loop_note, h (heralds_of_classify hx), if_true]
        exact hushed_note s _
    exact (htold.trans (hushed_unwatch host _)).trans (hushed_resume host _)

/-- All commands but those that set a listener, and signals that herald a change, leave the
listener alone. -/
theorem hushed_obey (host : Host W) {c : Command} (hc : c.listener? = none)
    (hherald : s.heralds c = true → s.loop.listener = none) : Hushed s (s.obey host c) := by
  cases c with
  | setEnabled enabled => exact hushed_setEnabled host s enabled
  | flushAndUnbind =>
    have h : Hushed s { s with loop.flushing := true } := ⟨rfl, .refl _⟩
    exact h.trans (hushed_setEnabled host _ true)
  | connected token transport => exact hushed_connected host s token transport
  | sessionDied token cause => exact hushed_sessionDied host s token cause
  | deathCheck failed =>
    cases failed with
    | none => exact hushed_note s _
    | some token => exact hushed_sessionDied host s token _
  | retryElapsed generation => exact hushed_retryElapsed host s generation
  | signal id x => exact hushed_signalled host hherald
  | setChangeListener l => cases hc
  | barrier ticket => exact ⟨rfl, .refl _⟩
  | shutdown => exact hushed_shutDown host s

end System

/-! ## Steps -/

/-- The listener `l` was told of the signal `c` : nothing but the receipt was written down before,
no listener is called after it, and the subscription is closed after it. -/
def Informs (l : ListenerId) (c : Command) (s t : System W) : Prop :=
  ∃ id x later, c = .signal id x ∧
    t.journal = later ++ ⟨s.clock, .call (.listener l s.extension)⟩ ::
      ⟨s.clock, .note (.availabilityChanged x)⟩ :: ⟨s.clock, .note (.received c)⟩ :: s.journal ∧
    (∀ r ∈ later, r.fact.listener? = none) ∧ ∃ r ∈ later, r.fact = .call (.unsubscribe id)

namespace System

/-- Without a command no listener is called. -/
theorem hushed_step (host : Host W) {a : Step W} (h : s.command? a = none) :
    Hushed s (s.step host a) := by
  cases a with
  | act a => exact (touched_act host s a).hushed
  | turn =>
    simp only [step, turn]
    split
    · exact ⟨rfl, .cons rfl⟩
    · exact .refl s
    · rename_i hs
      split
      · rename_i hi
        simp [command?, hs, hi] at h
      · split
        · exact .refl s
        · have h := (hushed_note s .allHandlesDropped).trans (hushed_teardown host _)
          exact { h.trans (hushed_publish _) with }
  | fire x =>
    simp only [step]
    split
    · unfold fire notify
      split
      · exact ⟨rfl, .cons rfl⟩
      · split
        · exact ⟨rfl, .refl _⟩
        · exact ⟨rfl, .refl _⟩
    · exact .refl s
  | wait span => exact ⟨rfl, .refl _⟩
  | leave count => exact ⟨rfl, .refl _⟩
  | drift w => exact ⟨rfl, .refl _⟩

/-- A step that processes a command takes it out of the inbox and acts on it. -/
theorem exists_obeyed_of_command? (host : Host W) {a : Step W} {c : Command}
    (h : s.command? a = some c) : ∃ rest,
      Hushed (({ s with inbox := rest }.note (.received c)).obey host c) (s.step host a) := by
  have ht := turned_step host s a
  rw [h] at ht
  generalize s.step host a = t at ht ⊢
  cases ht with
  | @processed _ rest _ _ hc =>
    refine ⟨rest, ?_⟩
    rw [process, if_neg hc]
    exact hushed_publish _
  | @shutDown rest => exact ⟨rest, .refl _⟩

/-- No listener is called by a command that does not herald a change, or while none is set. -/
theorem hushed_step_of_command? (host : Host W) {a : Step W} {c : Command}
    (h : s.command? a = some c) (hc : c.listener? = none)
    (hherald : s.heralds c = true → s.loop.listener = none) : Hushed s (s.step host a) := by
  obtain ⟨rest, hobeyed⟩ := exists_obeyed_of_command? host h
  generalize s.step host a = t at hobeyed ⊢
  have hreceived : Hushed s ({ s with inbox := rest }.note (.received c)) := ⟨rfl, .cons rfl⟩
  exact (hreceived.trans (hushed_obey host hc hherald)).trans hobeyed

/-- The listener is called first, and then the subscription is closed. -/
theorem hushed_availabilityChanged (host : Host W) {id : Subscription} {l : ListenerId}
    (hw : s.loop.watching = some id) (hl : s.loop.listener = some l) (x : Signal) : ∃ u,
    Hushed ((s.note (.availabilityChanged x)).record (.call (.listener l s.extension))) u ∧
    Hushed (({ u with loop.watching := none }.note (.watchStopped id)).record
      (.call (.unsubscribe id))) (s.availabilityChanged host x true) := by
  have hnote : (s.note (.availabilityChanged x)).loop.listener = some l := hl
  simp only [availabilityChanged, if_true]
  rw [announceChange, hnote]
  have h := touched_consultFreely host (s.note (.availabilityChanged x))
    (.listener l s.extension) (host.listener s.world l s.extension
      (if s.handles = 0 then none else some s.status))
  refine ⟨_, h.hushed, ?_⟩
  have hu := h.offstage.loop
  exact (hushed_of_watching host (by rw [hu]; exact hw)).trans (hushed_resume host _)

/-- A signal that heralds a change calls the listener that is set. -/
theorem informs_step (host : Host W) {a : Step W} {c : Command} {l : ListenerId}
    (h : s.command? a = some c) (hherald : s.heralds c = true) (hl : s.loop.listener = some l) :
    Informs l c s (s.step host a) ∧ (s.step host a).loop.listener = some l := by
  obtain ⟨rest, hobeyed⟩ := exists_obeyed_of_command? host h
  generalize s.step host a = t at hobeyed ⊢
  obtain ⟨id, x, rfl, hw, hx⟩ := classify_of_heralds hherald
  have heq : ({ s with inbox := rest }.note (.received (.signal id x))).obey host (.signal id x) =
      ({ s with inbox := rest }.note (.received (.signal id x))).availabilityChanged host x true :=
    obey_of_relevant host hx
  rw [heq] at hobeyed
  obtain ⟨u, hcalled, hclosed⟩ := hushed_availabilityChanged
    (s := { s with inbox := rest }.note (.received (.signal id x))) host hw hl x
  have hrest := hclosed.trans hobeyed
  obtain ⟨before, hbefore, hquiet⟩ := hcalled.journal
  obtain ⟨after, hafter, hquiet'⟩ := hrest.journal
  refine ⟨⟨id, x, after ++ ⟨u.clock, .call (.unsubscribe id)⟩ ::
    ⟨u.clock, .note (.watchStopped id)⟩ :: before, rfl, ?_, ?_, ?_⟩, ?_⟩
  · rw [hafter, List.append_assoc]
    exact congrArg _ (congrArg _ (congrArg _ hbefore))
  · intro r hr
    simp only [List.mem_append, List.mem_cons] at hr
    rcases hr with hr | rfl | rfl | hr
    · exact hquiet' r hr
    · rfl
    · rfl
    · exact hquiet r hr
  · exact ⟨⟨u.clock, .call (.unsubscribe id)⟩, by simp, rfl⟩
  · exact hrest.listener.trans (hcalled.listener.trans hl)

end System

/-- A listener that is informed is called once. -/
theorem Informs.announcements {l : ListenerId} {c : Command} (h : Informs l c s t) :
    t.journal.announcements = s.journal.announcements ++ [(l, s.extension)] := by
  obtain ⟨_, x, later, -, hj, hquiet, -⟩ := h
  have hgrows : Journal.GrowsBy (·.listener? = none) _ t.journal := ⟨later, hj, hquiet⟩
  refine (Journal.chronicle_of_growsBy hgrows fun _ => id).trans ?_
  simp [Journal.announcements, Journal.chronicle_cons, Fact.listener?]

namespace System

/-- A step calls the listener that it addresses, if it addresses one, and only a command that sets
a listener changes it. -/
theorem announcements_step (host : Host W) (s : System W) (a : Step W) :
    (s.step host a).journal.announcements =
      s.journal.announcements ++ (s.addressee? a).toList.map (·, s.extension) ∧
    (s.step host a).loop.listener =
      ((s.command? a).bind Command.listener?).getD s.loop.listener := by
  cases h : s.command? a with
  | none =>
    have hquiet := hushed_step host h
    exact ⟨by simp [addressee?, h, hquiet.announcements], hquiet.listener⟩
  | some c =>
    cases hc : c.listener? with
    | some l =>
      cases c with
      | setChangeListener l' =>
        obtain ⟨rest, hobeyed⟩ := exists_obeyed_of_command? host h
        have haddressee : s.addressee? a = none := by simp [addressee?, h, heralds]
        rw [haddressee]
        generalize s.step host a = t at hobeyed ⊢
        have hset : t.journal.announcements = s.journal.announcements :=
          hobeyed.announcements.trans (hushed_note { s with inbox := rest } _).announcements
        exact ⟨by simpa using hset, hobeyed.listener⟩
      | _ => cases hc
    | none =>
      have hstands : ((some c).bind Command.listener?).getD s.loop.listener = s.loop.listener := by
        rw [Option.bind_some, hc, Option.getD_none]
      rw [hstands]
      by_cases htold : s.heralds c = true ∧ s.loop.listener.isSome
      · obtain ⟨hherald, hl⟩ := htold
        obtain ⟨l, hl⟩ := Option.isSome_iff_exists.1 hl
        obtain ⟨hinforms, hlistener⟩ := informs_step host h hherald hl
        exact ⟨by simp [addressee?, h, hherald, hl, hinforms.announcements], hlistener.trans hl.symm⟩
      · have hherald : s.heralds c = true → s.loop.listener = none := by simpa using htold
        have hquiet := hushed_step_of_command? host h hc hherald
        have haddressee : s.addressee? a = none := by
          simpa [addressee?, h] using hherald
        exact ⟨by rw [haddressee]; simpa using hquiet.announcements, hquiet.listener⟩

/-- The extension stays the same. -/
theorem extension_step (host : Host W) (s : System W) (a : Step W) :
    (s.step host a).extension = s.extension :=
  step_stir_induct (motive := fun t => t.extension = s.extension) (fun _ _ _ _ h => h)
    (fun _ _ h hs => h.steady.extension.trans hs) rfl a

/-- A run calls the listeners that its steps address, in order. -/
theorem announcements_run (host : Host W) (s : System W) (as : List (Step W)) :
    (s.run host as).journal.announcements =
      s.journal.announcements ++ (s.addressees host as).map (·, s.extension) := by
  induction as generalizing s with
  | nil => simp [addressees]
  | cons a as ih =>
    rw [run_cons, ih, (announcements_step host s a).1, extension_step, addressees,
      List.map_append, List.append_assoc]

/-- The listener that is set is the last one that a command set. -/
theorem listener_run (host : Host W) (s : System W) (as : List (Step W)) :
    (s.run host as).loop.listener =
      ((s.commands host as).filterMap Command.listener?).getLast?.getD s.loop.listener := by
  induction as generalizing s with
  | nil => rfl
  | cons a as ih =>
    rw [run_cons, ih, (announcements_step host s a).2, commands, List.filterMap_append,
      List.getLast?_append, Option.getD_or]
    congr 1
    cases s.command? a with
    | none => rfl
    | some c => cases hc : c.listener? <;> simp [hc]

end System

/-- A signal about a package, but not about that of the extension, is ignored. -/
theorem ignored_of_other_package (hs : Reachable host s) {a : Step W} {id : Subscription}
    {x : Signal} (h : s.command? a = some (.signal id x)) (hx : x.kind.isPackageScoped = true)
    (hp : x.package ≠ some s.extension.package) :
    Ignored (.signal id x) s (s.step host a) := by
  have hconcerns : x.concerns s.extension.package = false := by simp [Signal.concerns, hx, hp]
  by_cases hw : s.loop.watching = some id
  · refine System.ignored_of_obey hs (.signalUnrelated x) h nofun fun rest => ?_
    simp [System.obey, System.signalled, System.classify, hw, hconcerns, System.note, System.record]
  · refine System.ignored_of_obey hs (.signalStale x) h nofun fun rest => ?_
    simp [System.obey, System.signalled, System.classify, hw, System.note, System.record]

/-- Change listeners are called exactly for changes of the package. Those that a run calls are those
that its steps address, in order: one for each signal that heralds a change while a listener is set,
namely that listener, and each is told of the extension. The listener that is set is the last one
that a command set. It is called before the subscription is closed, and before all else that the
signal gives rise to. A signal about another package, or about none although it should name one, is
ignored. -/
theorem announcements_are_exact (hs : Reachable host s) :
    (∀ as, (s.run host as).journal.announcements =
      s.journal.announcements ++ (s.addressees host as).map (·, s.extension)) ∧
    (∀ as, (s.run host as).loop.listener =
      ((s.commands host as).filterMap Command.listener?).getLast?.getD s.loop.listener) ∧
    (∀ a c l, s.command? a = some c → s.heralds c = true → s.loop.listener = some l →
      Informs l c s (s.step host a)) ∧
    (∀ a id x, s.command? a = some (.signal id x) → x.kind.isPackageScoped = true →
      x.package ≠ some s.extension.package → Ignored (.signal id x) s (s.step host a)) :=
  ⟨System.announcements_run host s, System.listener_run host s,
    fun _ _ _ h hherald hl => (System.informs_step host h hherald hl).1,
    fun _ _ _ h hx hp => ignored_of_other_package hs h hx hp⟩

/-- A supervisor that watches, and whose caller has changed the listener, when the package changes. -/
def Scenario.forewarned : System World :=
  (System.spawn ⟨⟨0⟩, ⟨"music"⟩, ⟨"player"⟩⟩ {}
      { packageKnown := false, listeners := [("first", []), ("second", [.flush])] }).run
    Scenario.host
    [.turn, .act (.deed (.ask (.setListener (some ⟨0⟩)))),
      .act (.deed (.ask (.setEnabled true))), .act (.deed (.ask (.setListener (some ⟨1⟩)))),
      .turn, .turn, .turn,
      .act (.deed (.report (.signal ⟨0⟩ ⟨.packageChanged, some ⟨"music"⟩⟩))),
      .act (.deed (.report (.signal ⟨1⟩ ⟨.packageChanged, some ⟨"books"⟩⟩)))]

theorem Scenario.reachable_forewarned : Reachable Scenario.host forewarned :=
  (Reachable.spawn _ _ _ rfl).run _

theorem second_listener_is_told :
    (Scenario.forewarned.run Scenario.host [.turn, .turn]).journal.announcements =
      [(⟨1⟩, ⟨⟨0⟩, ⟨"music"⟩, ⟨"player"⟩⟩)] ∧
    Informs ⟨1⟩ (.signal ⟨0⟩ ⟨.packageChanged, some ⟨"music"⟩⟩) Scenario.forewarned
      (Scenario.forewarned.step Scenario.host .turn) ∧
    Ignored (.signal ⟨1⟩ ⟨.packageChanged, some ⟨"books"⟩⟩)
      (Scenario.forewarned.step Scenario.host .turn)
      ((Scenario.forewarned.step Scenario.host .turn).step Scenario.host .turn) := by
  obtain ⟨hrun, -, hinforms, -⟩ := announcements_are_exact Scenario.reachable_forewarned
  obtain ⟨-, -, -, hignored⟩ :=
    announcements_are_exact (Scenario.reachable_forewarned.step .turn)
  refine ⟨(hrun [.turn, .turn]).trans ?_, hinforms .turn _ ⟨1⟩ rfl rfl rfl,
    hignored .turn ⟨1⟩ ⟨.packageChanged, some ⟨"books"⟩⟩ rfl rfl ?_⟩
  · rfl
  · decide

end Supervision
