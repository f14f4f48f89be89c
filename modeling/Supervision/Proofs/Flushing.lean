import Supervision.Proofs.Bindings
import Supervision.Proofs.Disconnection
import Supervision.Proofs.Enactment
import Supervision.Proofs.Requests

/-!
# Flushes

To flush is to want a connection for as long as it takes to deliver what waits. With a
connection there is nothing to deliver, and so it is ended at once. Without one the flush is
pending: whatever becomes of binds, sessions, retries and signals, the loop remembers it
(`flushing_step`) until the next connection, unless a caller wants none any more or the loop
stops. That connection is ended by the command that reports it, when what waited was replayed,
so that callers never see it.

The end of a flush overlaps with the end of the session when the replay was refused: the session
dies first, which gives back the binding and may schedule a retry, and the flush then finds no
binding to give back, and takes back the retry. That the binding is given back once is read off
the balance of what the binder gave and was given back, at both ends of the command
(`released_of_disconnected`).
-/

namespace Supervision

variable {W : Type} {host : Host W} {s t : System W}

/-! ## Flushes that stay pending -/

namespace System

theorem flushing_scheduleRetry (s : System W) :
    s.scheduleRetry.loop.flushing = s.loop.flushing := by
  obtain ⟨g, generation, h⟩ := exists_loop_scheduleRetry s
  rw [h]

theorem flushing_watch (host : Host W) (s : System W) :
    (s.watch host).loop.flushing = s.loop.flushing := by
  obtain ⟨watching, h⟩ := exists_loop_watch host s
  rw [h]

theorem flushing_checkAvailable (host : Host W) (s : System W) :
    (s.checkAvailable host).1.loop.flushing = s.loop.flushing := by
  obtain ⟨t, ht, h | h⟩ := exists_checkAvailable_eq host s
  · rw [h, ht.loop]
  · rw [h, flushing_watch, ht.loop]

/-- A flush stays pending even when the loop gives up. -/
theorem flushing_giveUp (host : Host W) (s : System W) :
    (s.giveUp host).loop.flushing = s.loop.flushing := by
  obtain ⟨watching, h⟩ := exists_loop_giveUp host s
  rw [h]

theorem flushing_tryBind (host : Host W) (hb : s.loop.binding = none) :
    (s.tryBind host).loop.flushing = s.loop.flushing := by
  have h := tried_tryBind host hb
  generalize s.tryBind host = t at h ⊢
  cases h with
  | accepted h =>
    simp only [h.loop]
    rfl
  | failed h =>
    simp only [flushing_scheduleRetry, h.loop]
    rfl

/-- An attempt is made for the flush, and does not end it. -/
theorem flushing_attemptBind (host : Host W) (hb : s.loop.binding = none) :
    (s.attemptBind host).loop.flushing = s.loop.flushing := by
  unfold attemptBind
  split
  · exact flushing_giveUp host s
  · have hc := flushing_checkAvailable host s
    have hbinding := (tacit_checkAvailable host s).binding_eq_none hb
    split <;> rename_i heq <;> rw [heq] at hc hbinding
    · exact (flushing_tryBind host hbinding).trans hc
    · exact hc

/-- Without a connection, a flush has something to wait for. -/
theorem flushing_bind (host : Host W) (hb : s.loop.state.isIdle → s.loop.binding = none)
    (hst : s.loop.state ≠ .connected) : (s.bind host).loop.flushing = s.loop.flushing := by
  unfold bind
  split <;> rename_i h
  · exact absurd h hst
  · rfl
  · exact flushing_attemptBind host (hb (by rw [h]; rfl))
  · exact flushing_attemptBind host (hb (by rw [h]; rfl))

/-- The death of a session leaves a flush pending. -/
theorem flushing_sessionDied (host : Host W) (s : System W) (token : BindToken)
    (cause : DeathCause) : (s.sessionDied host token cause).loop.flushing = s.loop.flushing := by
  have hrelease : ((s.note (.sessionDied token cause)).release host).loop.flushing =
      s.loop.flushing := by
    rw [loop_release]
    rfl
  have hc := flushing_checkAvailable host ((s.note (.sessionDied token cause)).release host)
  unfold sessionDied
  split
  · simp only
    split
    · split <;> rename_i heq <;> rw [heq] at hc
      · exact (flushing_scheduleRetry _).trans (hc.trans hrelease)
      · exact hc.trans hrelease
    · exact hrelease
  · rfl

theorem flushing_retryElapsed (host : Host W) (hs : Tidy s) (hf : s.loop.flushing = true)
    (generation : Nat) : (s.retryElapsed host generation).loop.flushing = true := by
  unfold retryElapsed
  split
  · simp only
    split
    · exact (flushing_bind (s := { s with loop.retry := none }.note .retrying) host hs.unburdened
        (hs.unflushed hf)).trans hf
    · exact hf
  · exact hf

theorem flushing_availabilityChanged (host : Host W) (hs : Tidy s) (hf : s.loop.flushing = true)
    (x : Signal) (changed : Bool) :
    (s.availabilityChanged host x changed).loop.flushing = true := by
  obtain ⟨t, u, ht, rfl, heq⟩ := exists_availabilityChanged_eq host s x changed
  have hu : Tidy (t.unwatch host).allowBinds := (hs.of_loop_eq ht.loop).of_allowBinds
  have hflushing : (t.unwatch host).allowBinds.loop.flushing = true := by
    rw [loop_allowBinds, loop_unwatch, ht.loop]
    exact hf
  rw [heq]
  split
  · exact (flushing_bind (s := (t.unwatch host).allowBinds.note .rebinding) host hu.unburdened
      (hu.unflushed hflushing)).trans hflushing
  · exact hflushing

/-- To want a connection leaves a flush pending that waits for one. -/
theorem flushing_enable (host : Host W) (hs : Tidy s) (hf : s.loop.flushing = true)
    (hst : s.loop.state ≠ .connected) : (s.setEnabled host true).loop.flushing = true :=
  (flushing_bind (s := { s with loop.desired := true }) host hs.unburdened hst).trans hf

/-- The flush of a loop without a connection is pending. -/
theorem flushing_flush (host : Host W) (hs : Tidy s) (hst : s.loop.state ≠ .connected) :
    (s.obey host .flushAndUnbind).loop.flushing = true :=
  flushing_enable (s := { s with loop.flushing := true }) host
    ⟨fun _ => hst, hs.unburdened⟩ rfl hst

end System

/-- The step ends a pending flush: no connection is wanted any more, or the connection that was
waited for is there, or the loop stops. -/
def EndsFlush (host : Host W) (s : System W) (a : Step W) : Prop :=
  s.command? a = some (.setEnabled false) ∨
  (∃ token transport, s.command? a = some (.connected token transport) ∧
    s.loop.attempt = some token ∧ s.loop.state = .connecting) ∨
  s.phase = .running ∧ (s.step host a).phase = .stopped

namespace System

/-- Only a wish for no connection, the connection itself and the stop of the loop end a flush. -/
theorem flushing_obey (host : Host W) (hs : Tidy s) (hf : s.loop.flushing = true) {c : Command}
    (hc : c ≠ .shutdown) (hdisable : c ≠ .setEnabled false)
    (hconnected : ∀ token transport, c = .connected token transport →
      ¬(s.loop.attempt = some token ∧ s.loop.state = .connecting)) :
    (s.obey host c).loop.flushing = true := by
  cases c with
  | setEnabled enabled =>
    cases enabled with
    | true => exact flushing_enable host hs hf (hs.unflushed hf)
    | false => exact absurd rfl hdisable
  | flushAndUnbind => exact flushing_flush host hs (hs.unflushed hf)
  | connected token transport =>
    simp only [obey]
    rw [connected, if_neg (hconnected token transport rfl)]
    exact hf
  | sessionDied token cause => exact (flushing_sessionDied host s token cause).trans hf
  | deathCheck failed =>
    cases failed with
    | none => exact hf
    | some token => exact (flushing_sessionDied host s token _).trans hf
  | retryElapsed generation => exact flushing_retryElapsed host hs hf generation
  | signal id x =>
    simp only [obey, signalled]
    split
    · exact hf
    · exact hf
    · exact flushing_availabilityChanged host hs hf x _
  | setChangeListener l => exact hf
  | barrier ticket => exact hf
  | shutdown => exact absurd rfl hc

theorem flushing_process (host : Host W) (hs : Tidy s) (hf : s.loop.flushing = true) {c : Command}
    (hc : c ≠ .shutdown) (hdisable : c ≠ .setEnabled false)
    (hconnected : ∀ token transport, c = .connected token transport →
      ¬(s.loop.attempt = some token ∧ s.loop.state = .connecting)) :
    (s.process host c).loop.flushing = true := by
  have hnote : Tidy (s.note (.received c)) := hs.of_loop_eq (loop_note s _)
  simp only [process, if_neg hc, loop_publish]
  exact flushing_obey host hnote hf hc hdisable hconnected

/-- A pending flush stays pending in each step that does not end it. -/
theorem flushing_step (host : Host W) (hs : Tidy s) (hf : s.loop.flushing = true) {a : Step W}
    (ha : ¬EndsFlush host s a) : (s.step host a).loop.flushing = true := by
  have h := turned_step host s a
  have hstops : ¬(s.phase = .running ∧ (s.step host a).phase = .stopped) := fun h =>
    ha (.inr (.inr h))
  have hdisable : s.command? a ≠ some (.setEnabled false) := fun h => ha (.inl h)
  have hconnected : ∀ token transport, s.command? a = some (.connected token transport) →
      ¬(s.loop.attempt = some token ∧ s.loop.state = .connecting) := fun token transport h h' =>
    ha (.inr (.inl ⟨token, transport, h, h'⟩))
  generalize s.command? a = c?, s.step host a = t at h hstops hdisable hconnected ⊢
  cases h with
  | offstage h =>
    rw [h.loop]
    exact hf
  | started => exact hf
  | @processed c rest _ _ hc =>
    refine flushing_process (s := { s with inbox := rest }) host { hs with } hf hc ?_ ?_
    · exact fun h => hdisable (congrArg some h)
    · exact fun token transport h => hconnected token transport (congrArg some h)
  | shutDown hrun => exact absurd ⟨hrun, rfl⟩ hstops
  | closed hrun => exact absurd ⟨hrun, rfl⟩ hstops

/-- A pending flush stays pending in a run, up to a step that ends it. -/
theorem flushing_run (hs : Reachable host s) (hf : s.loop.flushing = true) (as : List (Step W)) :
    (s.run host as).loop.flushing = true ∨ ∃ bs a cs, as = bs ++ a :: cs ∧
      (s.run host bs).loop.flushing = true ∧ EndsFlush host (s.run host bs) a := by
  induction as generalizing s with
  | nil => exact .inl hf
  | cons a as ih =>
    by_cases ha : EndsFlush host s a
    · exact .inr ⟨[], a, as, rfl, hf, ha⟩
    · rcases ih (hs.step a) (flushing_step host hs.poised.toTidy hf ha) with
        h | ⟨bs, b, cs, rfl, hb, hends⟩
      · exact .inl h
      · exact .inr ⟨a :: bs, b, cs, rfl, hb, hends⟩

/-! ## The end of a flush -/

/-- A flush ends without a connection. -/
theorem disconnected_finishFlush (host : Host W) (s : System W) :
    Disconnected (s.finishFlush host) := by
  have hslot : (s.finishFlush host).slot = none := (lost_finishFlush host s).slot
  constructor <;> first | rw [loop_finishFlush] | exact hslot

/-- A flush ends with the connection, whether or not the session has died before. -/
theorem disconnected_connected (host : Host W) {token : BindToken} (transport : TransportId)
    (hf : s.loop.flushing = true) (ha : s.loop.attempt = some token)
    (hst : s.loop.state = .connecting) : Disconnected (s.connected host token transport) := by
  obtain ⟨dropped, failed, t, ht, heq⟩ := exists_connected_eq host transport ha hst
  have htf : t.loop.flushing = true := by
    rw [ht.loop]
    exact hf
  have hflushing :
      (if failed then t.sessionDied host token .dispatchFailed else t).loop.flushing = true := by
    split
    · exact (flushing_sessionDied host t token _).trans htf
    · exact htf
  rw [heq, endFlush, if_pos hflushing]
  exact disconnected_finishFlush host _

/-- With a connection already there, a flush ends at once. -/
theorem disconnected_flush (host : Host W) (hst : s.loop.state = .connected) :
    Disconnected (s.obey host .flushAndUnbind) := by
  have h : s.obey host .flushAndUnbind =
      ({ s with loop.flushing := true, loop.desired := true }.note .nothingToFlush).finishFlush
        host := by
    simp only [obey, setEnabled, if_true, bind, hst]
  rw [h]
  exact disconnected_finishFlush host _

theorem disconnected_flush_step (host : Host W) {a : Step W}
    (ha : s.command? a = some .flushAndUnbind) (hst : s.loop.state = .connected) :
    Disconnected (s.step host a) := by
  obtain ⟨rest, -, -, heq⟩ := exists_step_eq host ha nofun
  have h := disconnected_flush (s := { s with inbox := rest }.note (.received .flushAndUnbind))
    host hst
  rw [heq]
  exact (dormant_publish h).disconnected

theorem disconnected_connected_step (host : Host W) (hf : s.loop.flushing = true) {a : Step W}
    {token : BindToken} {transport : TransportId}
    (h : s.command? a = some (.connected token transport)) (ha : s.loop.attempt = some token)
    (hst : s.loop.state = .connecting) : Disconnected (s.step host a) := by
  obtain ⟨rest, -, -, heq⟩ := exists_step_eq host h nofun
  have h := disconnected_connected (s := { s with inbox := rest }.note
    (.received (.connected token transport))) host transport hf ha hst
  rw [heq]
  exact (dormant_publish h).disconnected

/-- After a wish for no connection there is none. -/
theorem disconnected_disable_step (host : Host W) {a : Step W}
    (ha : s.command? a = some (.setEnabled false)) : Disconnected (s.step host a) := by
  have h := turned_step host s a
  rw [ha] at h
  generalize s.step host a = t at h ⊢
  cases h with
  | @processed _ rest => exact (process_disable host { s with inbox := rest }).1

/-- A flush without a connection at hand is pending. -/
theorem flushing_flush_step (host : Host W) (hs : Tidy s) {a : Step W}
    (ha : s.command? a = some .flushAndUnbind) (hst : s.loop.state ≠ .connected) :
    (s.step host a).loop.flushing = true := by
  obtain ⟨rest, -, -, heq⟩ := exists_step_eq host ha nofun
  have htidy : Tidy ({ s with inbox := rest }.note (.received .flushAndUnbind)) := { hs with }
  rw [heq, loop_publish]
  exact flushing_flush host htidy hst

/-- A step that ends a flush leaves no connection. -/
theorem not_connected_of_endsFlush (hs : Reachable host s) (hf : s.loop.flushing = true)
    {a : Step W} (ha : EndsFlush host s a) : (s.step host a).loop.state ≠ .connected := by
  rcases ha with ha | ⟨token, transport, ha, hattempt, hst⟩ | ⟨-, hstopped⟩
  · simp [(disconnected_disable_step host ha).state]
  · simp [(disconnected_connected_step host hf ha hattempt hst).state]
  · intro hc
    have hi := (hs.step a).isIdle_of_stopped hstopped
    rw [hc] at hi
    cases hi

end System

/-! ## The binding -/

/-- The binding was given back to the binder, and no other. -/
def Released (s t : System W) : Prop :=
  ∃ b, s.loop.binding = some b ∧ t.journal.returned = s.journal.returned ++ [b]

/-- No bind is tried in a step that leaves no connection and no attempt to make one. -/
theorem granted_of_disconnected (hs : Tidy s) {a : Step W} (ht : Disconnected (s.step host a)) :
    (s.step host a).journal.granted = s.journal.granted := by
  obtain ⟨u, hu, hl, -, hj⟩ := System.sought_step host hs a
  have hlast : (s.step host a).journal.granted = u.journal.granted :=
    Journal.granted_of_growsBy (hj.imp fun _ hf => hf.1)
  cases hu with
  | tacit h =>
    have hj := h.journal.imp fun _ => Fact.isBind_eq_false_of_isTacit
    exact hlast.trans (Journal.granted_of_growsBy hj)
  | tried _ _ h =>
    cases h with
    | accepted =>
      have hb := ht.binding
      rw [hl] at hb
      cases hb
    | @failed _ v =>
      obtain ⟨g, generation, h⟩ :=
        System.exists_loop_scheduleRetry { v with loop.state := .unbound }
      have hr := ht.retry
      rw [hl, h] at hr
      cases hr

/-- The binding of a connection that a step ends, or of an attempt, is given back once. -/
theorem released_of_disconnected (hs : Reachable host s) (hst : s.loop.state.isIdle = false)
    {a : Step W} (ht : Disconnected (s.step host a)) : Released s (s.step host a) := by
  have hbinding : s.loop.binding.isSome = true := by
    rw [hs.requested.binding, hst]
    rfl
  obtain ⟨b, hb⟩ := Option.isSome_iff_exists.1 hbinding
  refine ⟨b, hb, ?_⟩
  have hbefore := hs.balanced.balance
  have hafter := (hs.step a).balanced.balance
  rw [hb, Option.toList_some] at hbefore
  rw [ht.binding, Option.toList_none, List.append_nil] at hafter
  rw [hafter, granted_of_disconnected hs.poised.toTidy ht, hbefore]

/-! ## What callers see -/

/-- While a flush is pending, or when one ends, no connection is shown. -/
theorem not_connected_of_flush (hs : Reachable host s) {a : Step W}
    (h : s.loop.flushing = true ∨ (s.step host a).loop.flushing = true ∨
      s.command? a = some .flushAndUnbind) : (s.step host a).loop.state ≠ .connected := by
  have hafter : (s.step host a).loop.flushing = true → (s.step host a).loop.state ≠ .connected :=
    (hs.step a).poised.unflushed
  rcases h with hf | hf | ha
  · by_cases hends : EndsFlush host s a
    · exact System.not_connected_of_endsFlush hs hf hends
    · exact hafter (System.flushing_step host hs.poised.toTidy hf hends)
  · exact hafter hf
  · by_cases hst : s.loop.state = .connected
    · simp [(System.disconnected_flush_step host ha hst).state]
    · exact hafter (System.flushing_flush_step host hs.poised.toTidy ha hst)

/-- A status that a step publishes is the one that it ends with. -/
theorem published_of_step (host : Host W) (hs : Tidy s) (a : Step W) :
    s.journal.GrowsBy (fun f => ∀ x, f = .published x → x = (s.step host a).status)
      (s.step host a).journal := by
  obtain ⟨u, hu, -, -, hj⟩ := System.sought_step host hs a
  exact (hu.unpublished.imp fun _ hf x hx => absurd hx (hf x)).trans (hj.imp fun _ hf => hf.2)

/-- What is sent to a session that a flush opens is what waited, and nothing else is ever. -/
theorem dispatches_of_flush (hs : Reachable host s) (hf : s.loop.flushing = true) {a : Step W}
    {token : BindToken} {transport : TransportId}
    (h : s.command? a = some (.connected token transport)) (ha : s.loop.attempt = some token)
    (hst : s.loop.state = .connecting) : ∃ ds failed,
      (s.step host a).journal.sent = s.journal.sent ++ ds.map (⟨token, transport⟩, ·) ∧
      Replay.Carried s.pending.script failed ds ∧
      ∀ as, ((s.step host a).run host as).journal.dispatches token = ds ∧
        ∀ x, ((s.step host a).run host as).slot = some x → x.token ≠ token := by
  obtain ⟨failed, hintroduced⟩ := System.introduced_step host h ha hst
  obtain ⟨ds, hds, hcarried⟩ := hintroduced.sent
  have hattended := hs.attended token
  have hnone := (hattended.served.unplanned (hattended.seeking hst ha)).2
  have hsent := Journal.dispatches_of_sent hds
  rw [hnone, List.nil_append] at hsent
  have hslot : (s.step host a).slot = none := by rw [hintroduced.slot, hf, Bool.or_true, if_pos rfl]
  have habsent : ∀ x, (s.step host a).slot = some x → x.token ≠ token := fun x hx => by
    cases hslot.symm.trans hx
  have hdismissed : Dismissed token ds (s.step host a) := ⟨hintroduced.planned, habsent, hsent⟩
  refine ⟨ds, failed, hds, hcarried, fun as => ?_⟩
  have hrun : Dismissed token ds ((s.step host a).run host as) :=
    hdismissed.of_run ((hs.step a).attended token) as
  exact ⟨hrun.sent, hrun.absent⟩

/-- A flush ends in a disconnect, whatever happens meanwhile. A loop that is connected disconnects
by the command to flush. Otherwise the flush is pending, in every run, until no connection is
wanted any more, or the loop stops, or there is a connection. That connection is ended by the
command that reports it: what waited is replayed, up to the first event that is refused, and
nothing else is sent to the session in any run. In both cases the binding is given back once; and
no status that shows a connection is published while a flush is pending or ends. -/
theorem flush_ends_in_disconnect (hs : Reachable host s) :
    (∀ a, s.command? a = some .flushAndUnbind →
      (s.loop.state = .connected → Disconnected (s.step host a) ∧ Released s (s.step host a)) ∧
      (s.loop.state ≠ .connected → (s.step host a).loop.flushing = true)) ∧
    (s.loop.flushing = true → ∀ as, (s.run host as).loop.flushing = true ∨
      ∃ bs a cs, as = bs ++ a :: cs ∧ (s.run host bs).loop.flushing = true ∧
        EndsFlush host (s.run host bs) a) ∧
    (s.loop.flushing = true → ∀ a token transport,
      s.command? a = some (.connected token transport) → s.loop.attempt = some token →
      s.loop.state = .connecting →
      Disconnected (s.step host a) ∧ Released s (s.step host a) ∧
      ∃ ds failed, (s.step host a).journal.sent =
          s.journal.sent ++ ds.map (⟨token, transport⟩, ·) ∧
        Replay.Carried s.pending.script failed ds ∧
        ∀ as, ((s.step host a).run host as).journal.dispatches token = ds ∧
          ∀ x, ((s.step host a).run host as).slot = some x → x.token ≠ token) ∧
    (∀ a, s.loop.flushing = true ∨ (s.step host a).loop.flushing = true ∨
        s.command? a = some .flushAndUnbind →
      s.journal.GrowsBy (fun f => ∀ x, f = .published x → x.state ≠ .connected)
        (s.step host a).journal) := by
  refine ⟨fun a ha => ⟨fun hst => ?_, fun hst => ?_⟩, fun hf as => System.flushing_run hs hf as,
    fun hf a token transport ha hattempt hst => ?_, fun a h => ?_⟩
  · have h := System.disconnected_flush_step host ha hst
    exact ⟨h, released_of_disconnected hs (by rw [hst]; rfl) h⟩
  · exact System.flushing_flush_step host hs.poised.toTidy ha hst
  · have h := System.disconnected_connected_step host hf ha hattempt hst
    exact ⟨h, released_of_disconnected hs (by rw [hst]; rfl) h,
      dispatches_of_flush hs hf ha hattempt hst⟩
  · refine (published_of_step host hs.poised.toTidy a).imp fun f hpublished x hx => ?_
    rw [hpublished x hx, (hs.step a).status_eq]
    exact not_connected_of_flush hs h

/-- A supervisor that was told to flush, lost the first attempt, and has a connection of the
second one reported. -/
def Scenario.flushing : System World :=
  (System.spawn ⟨⟨0⟩, ⟨"music"⟩, ⟨"player"⟩⟩ {} { transports := [{}] }).run Scenario.host
    [.act (.tell .added), .act (.deed (.ask .flush)), .turn, .turn, .turn,
      .act (.deed (.report (.disconnected ⟨1⟩))), .turn, .wait 1000, .fire ⟨1, 1000⟩, .turn,
      .act (.deed (.report (.connected ⟨2⟩ ⟨0⟩)))]

theorem Scenario.reachable_flushing : Reachable Scenario.host flushing :=
  (Reachable.spawn _ _ _ rfl).run _

theorem flushing_supervisor_disconnects :
    Scenario.flushing.loop.flushing = true ∧
    Disconnected (Scenario.flushing.step Scenario.host .turn) ∧
    Released Scenario.flushing (Scenario.flushing.step Scenario.host .turn) ∧
    (Scenario.flushing.step Scenario.host .turn).journal.dispatches ⟨2⟩ = [(.added, true)] := by
  have hf : Scenario.flushing.loop.flushing = true := rfl
  have hconnected : Scenario.flushing.command? .turn = some (.connected ⟨2⟩ ⟨0⟩) := rfl
  obtain ⟨-, -, hends, -⟩ := flush_ends_in_disconnect Scenario.reachable_flushing
  obtain ⟨hd, hr, -⟩ := hends hf .turn ⟨2⟩ ⟨0⟩ hconnected rfl rfl
  exact ⟨hf, hd, hr, rfl⟩

end Supervision
