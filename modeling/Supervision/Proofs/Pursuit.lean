import Supervision.Proofs.Doings
import Supervision.Proofs.History
import Supervision.Scenario.World

/-!
# A wanted connection is pursued

While a connection is wanted and there is none, something must be about to make the loop try
again: a scheduled retry, or the open subscription, unless the notification center refused it.
`Poised` says so of a loop that waits for its next command, and also that such a loop has no
flush left to end if it is connected, and no binding to release if it is idle. It holds between
the steps of every run; `wanted_connection_is_pursued` is what comes of it.

In the middle of a command the loop need not be poised: a timer was used up, a subscription
closed, a session let go of. So `Poised` is not kept by each change, but what `bind` leaves is
poised whatever it started from, and so is what is left when a session died. Every other command
ends in one of the two, or leaves alone what `Poised` speaks of.
-/

namespace Supervision

variable {W : Type} {host : Host W} {s t : System W}

/-! ## Refused subscriptions -/

namespace Fact

/-- The answer to a request for availability signals. -/
def subscription? : Fact → Option (Except Error Unit)
  | .call (.subscribe _ a) => some a
  | _ => none

theorem subscription?_eq_none {f : Fact} (h : f.isEntry = false) : f.subscription? = none := by
  unfold subscription?
  split
  · cases h
  · rfl

end Fact

/-- The notification center refused the last request for availability signals. -/
def Journal.RefusesSignals (j : Journal) : Prop :=
  ∃ e, (j.chronicle Fact.subscription?).getLast? = some (.error e)

/-- A subscription is open, unless the notification center refused it. -/
def Alert (s : System W) : Prop := s.loop.watching.isSome ∨ s.journal.RefusesSignals

/-- Unless the notification center answers something else, an alert loop stays alert. -/
theorem Alert.of_growsBy (hs : Alert s) (hw : t.loop.watching = s.loop.watching)
    (hj : s.journal.GrowsBy (·.subscription? = none) t.journal) : Alert t := by
  have h := Journal.chronicle_of_growsBy hj fun _ => id
  rwa [Alert, hw, Journal.RefusesSignals, h]

/-- To watch leaves the loop alert, whatever the notification center answers. -/
theorem System.alert_watch (host : Host W) (s : System W) : Alert (s.watch host) := by
  have h := watched_watch host s
  generalize s.watch host = t at h ⊢
  cases h with
  | already hw => exact .inl hw
  | opened => exact .inl rfl
  | @refused q e t _ h =>
    have hj := Journal.chronicle_of_growsBy h.journal fun _ => Fact.subscription?_eq_none
    refine .inr ⟨e, ?_⟩
    rw [hj]
    simp [record, Journal.chronicle_cons, Fact.subscription?]

/-! ## Poise -/

/-- A connected loop has no flush left to end, and an idle one no binding to release. -/
structure Tidy (s : System W) : Prop where
  unflushed : s.loop.flushing → s.loop.state ≠ .connected
  unburdened : s.loop.state.isIdle → s.loop.binding = none

/-- The loop can wait for its next command. -/
structure Poised (s : System W) : Prop extends Tidy s where
  unbound : s.loop.desired → s.loop.state = .unbound → s.loop.retry.isSome ∨ Alert s
  givingUp : s.loop.desired → s.loop.state = .givingUp → Alert s

theorem Tidy.of_loop_eq (hs : Tidy s) (hl : t.loop = s.loop) : Tidy t := by
  refine ⟨?_, ?_⟩ <;> rw [hl]
  · exact hs.unflushed
  · exact hs.unburdened

/-- A subscription is closed, and binds are allowed again. -/
theorem Tidy.of_allowBinds (hs : Tidy s) : Tidy (s.unwatch host).allowBinds := by
  refine ⟨fun hf => ?_, fun hi => ?_⟩
  · rw [System.loop_allowBinds, System.loop_unwatch] at hf ⊢
    simp only at hf ⊢
    split
    · simp
    · exact hs.unflushed hf
  · rw [System.loop_allowBinds, System.loop_unwatch] at hi ⊢
    simp only at hi
    refine hs.unburdened ?_
    split at hi
    · simp [*, ConnectionState.isIdle]
    · exact hi

namespace Poised

/-- A loop that stands stays poised while the notification center answers nothing. -/
theorem of_growsBy (hs : Poised s) (hl : t.loop = s.loop)
    (hj : s.journal.GrowsBy (·.subscription? = none) t.journal) : Poised t where
  toTidy := hs.toTidy.of_loop_eq hl
  unbound := by
    rw [hl]
    exact fun hd hst => (hs.unbound hd hst).imp_right (·.of_growsBy (by rw [hl]) hj)
  givingUp := by
    rw [hl]
    exact fun hd hst => (hs.givingUp hd hst).of_growsBy (by rw [hl]) hj

/-- A loop that wants no connection need not pursue one. -/
theorem of_undesired (hs : Tidy s) (hd : s.loop.desired = false) : Poised s where
  toTidy := hs
  unbound h := by simp [hd] at h
  givingUp h := by simp [hd] at h

/-- A loop that waits stays poised, whatever callers and collaborators do. -/
theorem of_offstage (hs : Poised s) (h : Offstage s t) : Poised t :=
  hs.of_growsBy h.loop (h.journal.imp fun _ => Fact.subscription?_eq_none)

/-- An idle loop is poised if it is alert. -/
theorem of_alert (hi : s.loop.state.isIdle) (hb : s.loop.binding = none) (ha : Alert s) :
    Poised s where
  unbound _ _ := .inr ha
  givingUp _ _ := ha
  unflushed _ hc := by simp [hc, ConnectionState.isIdle] at hi
  unburdened _ := hb

theorem of_scheduled (hst : s.loop.state = .unbound) (hb : s.loop.binding = none)
    (hr : s.loop.retry.isSome) : Poised s where
  unbound _ _ := .inl hr
  givingUp _ hg := by simp [hst] at hg
  unflushed _ hc := by simp [hst] at hc
  unburdened _ := hb

theorem of_disconnected (hd : s.loop.desired = false) (hst : s.loop.state = .unbound)
    (hb : s.loop.binding = none) : Poised s :=
  of_undesired ⟨fun _ hc => by simp [hst] at hc, fun _ => hb⟩ hd

theorem of_connecting (hst : s.loop.state = .connecting) : Poised s where
  unbound _ h := by simp [hst] at h
  givingUp _ h := by simp [hst] at h
  unflushed _ h := by simp [hst] at h
  unburdened h := by simp [hst, ConnectionState.isIdle] at h

/-- A connected loop waits for the session to die, unless a flush is to end it. -/
theorem of_connected (hst : s.loop.state = .connected) (hf : s.loop.flushing = false) :
    Poised s where
  unbound _ h := by simp [hst] at h
  givingUp _ h := by simp [hst] at h
  unflushed h := by simp [hf] at h
  unburdened h := by simp [hst, ConnectionState.isIdle] at h

end Poised

/-! ## Commands -/

namespace System

/-- After a flush no connection is wanted. -/
theorem poised_finishFlush (host : Host W) (s : System W) : Poised (s.finishFlush host) :=
  .of_disconnected (by rw [loop_finishFlush]) (by rw [loop_finishFlush]) (by rw [loop_finishFlush])

/-- A connection that was made for a flush ends with it. -/
theorem poised_endFlush (host : Host W) (hs : s.loop.flushing = false → Poised s) :
    Poised (s.endFlush host) := by
  unfold endFlush
  split
  · exact poised_finishFlush host s
  · exact hs (Bool.eq_false_iff.2 ‹_›)

/-- A loop that gives up watches. -/
theorem poised_giveUp (host : Host W) (hb : s.loop.binding = none) : Poised (s.giveUp host) := by
  obtain ⟨t, -, heq⟩ := exists_giveUp_eq host s
  obtain ⟨watching, h⟩ := exists_loop_giveUp host s
  rw [heq] at h ⊢
  exact .of_alert (by rw [h]; rfl) (by rw [h]; exact hb) (alert_watch host _)

/-- A bind is in flight, or a retry is scheduled. -/
theorem poised_tryBind (host : Host W) (hb : s.loop.binding = none) :
    Poised (s.tryBind host) := by
  have h := tried_tryBind host hb
  generalize s.tryBind host = t at h ⊢
  cases h with
  | accepted => exact .of_connecting rfl
  | @failed _ u hu =>
    obtain ⟨g, generation, h⟩ := exists_loop_scheduleRetry { u with loop.state := .unbound }
    refine .of_scheduled (by rw [h]) ?_ (by rw [h]; rfl)
    rw [h, hu.loop]
    exact hb

/-- If the extension is not there, the loop watches for it. -/
theorem poised_attemptBind (host : Host W) (hb : s.loop.binding = none) :
    Poised (s.attemptBind host) := by
  unfold attemptBind
  split
  · exact poised_giveUp host hb
  · obtain ⟨u, hu, h | h⟩ := exists_checkAvailable_eq host s <;> simp only [h]
    · exact poised_tryBind host (by rw [hu.loop]; exact hb)
    · obtain ⟨watching, hw⟩ := exists_loop_watch host u
      refine .of_alert rfl ?_ (alert_watch host u)
      rw [hw, hu.loop]
      exact hb

/-- Whatever the loop did before, to see to its connection leaves it poised. -/
theorem poised_bind (host : Host W) (hb : s.loop.state.isIdle → s.loop.binding = none) :
    Poised (s.bind host) := by
  unfold bind
  split
  · split
    · exact poised_finishFlush host _
    · exact .of_connected ‹_› (Bool.eq_false_iff.2 ‹_›)
  · exact .of_connecting ‹_›
  · exact poised_attemptBind host (hb (by simp [*, ConnectionState.isIdle]))
  · exact poised_attemptBind host (hb (by simp [*, ConnectionState.isIdle]))

theorem poised_setEnabled (host : Host W) (hb : s.loop.state.isIdle → s.loop.binding = none)
    (enabled : Bool) : Poised (s.setEnabled host enabled) := by
  unfold setEnabled
  split
  · exact poised_bind host hb
  · exact .of_disconnected (by rw [loop_disconnect]) (by rw [loop_disconnect])
      (by rw [loop_disconnect])

/-- What is left when the attempt or session at hand died is poised, even if a flush that was
still to end is not. -/
theorem poised_sessionDied_of_current (host : Host W) {token : BindToken} (cause : DeathCause)
    (ha : s.loop.attempt = some token)
    (hst : s.loop.state = .connecting ∨ s.loop.state = .connected) :
    Poised (s.sessionDied host token cause) := by
  simp only [sessionDied, ha, hst, and_self, if_true]
  generalize hu : (s.note (.sessionDied token cause)).release host = u
  have hl := loop_release host (s.note (.sessionDied token cause))
  rw [hu] at hl
  have hstate : u.loop.state = .unbound := by rw [hl]
  have hbinding : u.loop.binding = none := by rw [hl]
  split
  · obtain ⟨v, hv, h | h⟩ := exists_checkAvailable_eq host u <;> simp only [h]
    · obtain ⟨g, generation, hs⟩ := exists_loop_scheduleRetry v
      exact .of_scheduled (by rw [hs, hv.loop, hstate]) (by rw [hs, hv.loop, hbinding])
        (by rw [hs]; rfl)
    · obtain ⟨watching, hw⟩ := exists_loop_watch host v
      exact .of_alert (by rw [hw, hv.loop, hstate]; rfl) (by rw [hw, hv.loop, hbinding])
        (alert_watch host v)
  · exact .of_disconnected (Bool.eq_false_iff.2 ‹_›) hstate hbinding

/-- The death of any other session is ignored. -/
theorem poised_sessionDied (host : Host W) (hs : Poised s) (token : BindToken)
    (cause : DeathCause) : Poised (s.sessionDied host token cause) := by
  by_cases h : s.loop.attempt = some token ∧
      (s.loop.state = .connecting ∨ s.loop.state = .connected)
  · exact poised_sessionDied_of_current host cause h.1 h.2
  · rw [sessionDied, if_neg h]
    exact hs.of_offstage (offstage_note rfl)

/-- A connection that is made may refuse the replay, and may have been made for a flush. -/
theorem poised_connected (host : Host W) (hs : Poised s) (token : BindToken)
    (transport : TransportId) : Poised (s.connected host token transport) := by
  by_cases h : s.loop.attempt = some token ∧ s.loop.state = .connecting
  · obtain ⟨dropped, failed, t, ht, heq⟩ := exists_connected_eq host transport h.1 h.2
    have ha : t.loop.attempt = some token := by
      rw [ht.loop]
      exact h.1
    have hst : t.loop.state = .connected := by
      rw [ht.loop]
      rfl
    rw [heq]
    refine poised_endFlush host fun hf => ?_
    cases failed with
    | true => exact poised_sessionDied_of_current host _ ha (.inr hst)
    | false => exact .of_connected hst hf
  · rw [connected, if_neg h]
    exact hs.of_offstage (offstage_note rfl)

/-- A retry that is used up is replaced by what it has the loop do. -/
theorem poised_retryElapsed (host : Host W) (hs : Poised s) (generation : Nat) :
    Poised (s.retryElapsed host generation) := by
  unfold retryElapsed
  split
  · simp only
    split
    · exact poised_bind host hs.unburdened
    · exact .of_undesired { hs.toTidy with } (Bool.eq_false_iff.2 ‹_›)
  · exact hs.of_offstage (offstage_note rfl)

/-- A subscription that served its purpose is replaced by what it has the loop do. -/
theorem poised_availabilityChanged (host : Host W) (hs : Poised s) (x : Signal)
    (changed : Bool) : Poised (s.availabilityChanged host x changed) := by
  obtain ⟨t, u, ht, rfl, heq⟩ := exists_availabilityChanged_eq host s x changed
  have hu : Tidy (t.unwatch host).allowBinds := (hs.toTidy.of_loop_eq ht.loop).of_allowBinds
  rw [heq]
  split
  · exact poised_bind host hu.unburdened
  · exact .of_undesired hu (Bool.eq_false_iff.2 ‹_›)

/-- A poised loop is poised again after each command. -/
theorem poised_obey (host : Host W) (hs : Poised s) {c : Command} (hc : c ≠ .shutdown) :
    Poised (s.obey host c) := by
  cases c with
  | setEnabled enabled => exact poised_setEnabled host hs.unburdened enabled
  | flushAndUnbind =>
    exact poised_setEnabled (s := { s with loop.flushing := true }) host hs.unburdened true
  | connected token transport => exact poised_connected host hs token transport
  | sessionDied token cause => exact poised_sessionDied host hs token cause
  | deathCheck failed =>
    cases failed with
    | none => exact hs.of_offstage (offstage_note rfl)
    | some token => exact poised_sessionDied host hs token _
  | retryElapsed generation => exact poised_retryElapsed host hs generation
  | signal id x =>
    simp only [obey, signalled]
    split
    · exact hs.of_offstage (offstage_note rfl)
    · exact hs.of_offstage (offstage_note rfl)
    · exact poised_availabilityChanged host hs x _
  | setChangeListener l => exact { hs with }
  | barrier ticket => exact { hs with }
  | shutdown => exact absurd rfl hc

theorem poised_publish (hs : Poised s) : Poised s.publish := by
  refine hs.of_growsBy (loop_publish s) ?_
  unfold publish
  split
  · exact .refl _
  · exact .cons rfl

theorem poised_process (host : Host W) (hs : Poised s) {c : Command} (hc : c ≠ .shutdown) :
    Poised (s.process host c) := by
  simp only [process, if_neg hc]
  exact poised_publish (poised_obey host (hs.of_offstage (offstage_note rfl)) hc)

theorem poised_teardown (host : Host W) (s : System W) : Poised (s.teardown host) :=
  .of_disconnected (by rw [loop_teardown]) (by rw [loop_teardown]) (by rw [loop_teardown])

end System

/-! ## Runs -/

/-- Between its steps a loop is poised. -/
theorem Poised.of_step (hs : Poised s) (a : Step W) : Poised (s.step host a) := by
  have h := System.turned_step host s a
  generalize s.command? a = c?, s.step host a = t at h ⊢
  cases h with
  | offstage h => exact hs.of_offstage h
  | started =>
    have h := hs.of_offstage (System.offstage_note (n := .loopStarted) rfl)
    exact { h with }
  | @processed c rest _ _ hc =>
    have h : Poised { s with inbox := rest } := { hs with }
    exact System.poised_process host h hc
  | @shutDown rest =>
    have h := System.poised_publish
      (System.poised_teardown host ({ s with inbox := rest }.note (.received .shutdown)))
    exact { h.of_offstage (System.offstage_note (n := .loopTerminated) rfl) with }
  | closed =>
    have h := System.poised_publish (System.poised_teardown host (s.note .allHandlesDropped))
    exact { h with }

theorem Reachable.poised (hs : Reachable host s) : Poised s := by
  induction hs with
  | spawn => exact .of_disconnected rfl rfl rfl
  | step _ a ih => exact ih.of_step a

/-- A connection that is wanted is never given up silently. If there is none and none is being
made, a retry is scheduled, or a subscription to availability signals is open, or the
notification center refused the last one; once the loop has given up, it does not count on a
retry. -/
theorem wanted_connection_is_pursued (hs : Reachable host s) (hd : s.loop.desired = true) :
    (s.loop.state = .unbound →
      s.loop.retry.isSome = true ∨ s.loop.watching.isSome = true ∨ s.journal.RefusesSignals) ∧
    (s.loop.state = .givingUp → s.loop.watching.isSome = true ∨ s.journal.RefusesSignals) :=
  ⟨hs.poised.unbound hd, hs.poised.givingUp hd⟩

/-- A supervisor that gave up, and was refused the signals it would wait for. -/
def Scenario.forsaken : System World :=
  (System.spawn ⟨⟨0⟩, ⟨"music"⟩, ⟨"player"⟩⟩ { maxRetries := 1 }
      { mode := .reject "busy", failing := true }).run Scenario.host
    [.turn, .act (.deed (.ask (.setEnabled true))), .turn, .wait 1000, .fire ⟨1, 1000⟩, .turn]

theorem Scenario.reachable_forsaken : Reachable Scenario.host forsaken :=
  (Reachable.spawn _ _ _ rfl).run _

theorem forsaken_was_refused_signals :
    Scenario.forsaken.loop.state = .givingUp ∧ Scenario.forsaken.journal.RefusesSignals := by
  have hd : Scenario.forsaken.loop.desired = true := rfl
  have hstate : Scenario.forsaken.loop.state = .givingUp := rfl
  have hwatching : Scenario.forsaken.loop.watching.isSome = false := rfl
  obtain ⟨-, hgivingUp⟩ := wanted_connection_is_pursued Scenario.reachable_forsaken hd
  rcases hgivingUp hstate with hopen | hrefused
  · rw [hwatching] at hopen
    cases hopen
  · exact ⟨hstate, hrefused⟩

end Supervision
