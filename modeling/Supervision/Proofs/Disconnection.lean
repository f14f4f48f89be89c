import Supervision.Proofs.Doings
import Supervision.Proofs.Publication

/-!
# A connection that is not wanted

A supervisor that was told that no connection is wanted has none and makes none, until the loop
processes a request for one: to be enabled, or to flush. Whatever else arrives meanwhile, reports
of binds and sessions of before, retries that were already due, signals, or the stop of the loop,
finds nothing that it could be about. `Dormant s t` says of a supervisor without a connection that
it became another one that has none either, without asking anything of a binder, a transport or
the notification center but to close a subscription, and with all that it was told waiting.
-/

namespace Supervision

variable {W : Type} {host : Host W} {s t u : System W}

/-- There is no connection, none is being made, and none is to be made. -/
structure Disconnected (s : System W) : Prop where
  state : s.loop.state = .unbound
  desired : s.loop.desired = false
  flushing : s.loop.flushing = false
  retryCount : s.loop.retryCount = 0
  attempt : s.loop.attempt = none
  binding : s.loop.binding = none
  session : s.loop.session = none
  retry : s.loop.retry = none
  slot : s.slot = none

/-- A fact that makes no connection and uses none: the binder is not called, no subscription is
opened, nothing is asked of a transport, and of what callers tell the extension there is no
session to send it to, and it waits in the queue. -/
def Fact.Passive (p : Pending) : Fact → Prop
  | .call (.bind ..) | .call (.unbind ..) | .call (.subscribe ..) => False
  | .call (.linkToDeath ..) | .call (.dispatch ..) => False
  | .told e x => x = none ∧ ∀ k, e.kind? = some k → p.contains k = true
  | _ => True

/-- What deeds write down is passive. -/
theorem Fact.passive_of_isMinor {f : Fact} (h : f.isMinor = true) (p : Pending) : f.Passive p := by
  unfold isMinor at h
  split at h <;> trivial

/-- What is told waits as long as the queue only grows. -/
theorem Fact.Passive.mono {f : Fact} {p q : Pending} (h : f.Passive p)
    (hpq : ∀ k, p.contains k = true → q.contains k = true) : f.Passive q := by
  unfold Passive at h ⊢
  split at h
  any_goals contradiction
  · exact ⟨h.1, fun k hk => hpq k (h.2 k hk)⟩
  · trivial

/-- There is still no connection, and nothing was done to have one. -/
structure Dormant (s t : System W) : Prop where
  disconnected : Disconnected t
  waits : ∀ k, s.pending.contains k = true → t.pending.contains k = true
  journal : s.journal.GrowsBy (Fact.Passive t.pending) t.journal

theorem Disconnected.of_eq (hs : Disconnected s) (hl : t.loop = s.loop) (hslot : t.slot = s.slot) :
    Disconnected t where
  state := by rw [hl, hs.state]
  desired := by rw [hl, hs.desired]
  flushing := by rw [hl, hs.flushing]
  retryCount := by rw [hl, hs.retryCount]
  attempt := by rw [hl, hs.attempt]
  binding := by rw [hl, hs.binding]
  session := by rw [hl, hs.session]
  retry := by rw [hl, hs.retry]
  slot := hslot.trans hs.slot

namespace Dormant

/-- The events were left alone, and only passive facts were written down. -/
theorem of_pending_eq (ht : Disconnected t) (hp : t.pending = s.pending)
    (hj : s.journal.GrowsBy (Fact.Passive t.pending) t.journal) : Dormant s t :=
  ⟨ht, fun k hk => by rwa [hp], hj⟩

theorem refl (hs : Disconnected s) : Dormant s s := of_pending_eq hs rfl (.refl _)

theorem trans (h : Dormant s t) (h' : Dormant t u) : Dormant s u where
  disconnected := h'.disconnected
  waits k hk := h'.waits k (h.waits k hk)
  journal := (h.journal.imp fun _ hf => hf.mono h'.waits).trans h'.journal

/-- What deeds do leaves it so. -/
theorem of_unheard (hs : Disconnected s) (h : Unheard s t)
    (hj : s.journal.GrowsBy (·.isMinor) t.journal) : Dormant s t :=
  of_pending_eq (hs.of_eq h.loop h.slot) h.pending (hj.imp fun _ hf => Fact.passive_of_isMinor hf _)

end Dormant

namespace System

/-! ## Callers and collaborators -/

theorem dormant_note (hs : Disconnected s) {n : Note} : Dormant s (s.note n) :=
  .of_pending_eq { hs with } rfl (.cons trivial)

/-- Whatever a collaborator does, no connection is made. -/
theorem dormant_perform (hs : Disconnected s) (host : Host W) (d : Deed) :
    Dormant s (s.perform host d) :=
  .of_unheard hs (unheard_perform host d) (minor_perform host s d)

theorem dormant_notify (hs : Disconnected s) (c : Command) : Dormant s (s.notify c) :=
  .of_unheard hs (unheard_notify c) ((late_notify s c).imp fun _ => Fact.isMinor_of_isLate)

/-- Without a session in the slot, what a caller tells the extension is deferred. -/
theorem pending_tell (host : Host W) (e : LifecycleEvent) (hslot : s.slot = none)
    (hs : s.handles ≠ 0) : (s.tell host e).pending = (s.pending.heed e).defer e := by
  rw [tell, if_neg hs]
  exact (unheard_convey_of_empty (s := (s.record (.told e s.slot)).enter) host e hslot).pending

/-- Without a session, what a caller tells is sent to nobody. -/
theorem passive_convey (host : Host W) (e : LifecycleEvent) (hslot : s.slot = none) (p : Pending) :
    s.journal.GrowsBy (Fact.Passive p) (s.convey host e).journal := by
  unfold convey
  split
  · simp only [setListening, hslot]
    exact .refl _
  · have h := late_submit ((s.defer e).note (.deferred e)) (.deathCheck none)
    have hnote : s.journal.GrowsBy (Fact.Passive p) ((s.defer e).note (.deferred e)).journal :=
      .cons trivial
    simp only [deliver, hslot]
    exact hnote.trans (h.imp fun _ hf => Fact.passive_of_isMinor (Fact.isMinor_of_isLate hf) _)

/-- So it waits. -/
theorem dormant_tell (hs : Disconnected s) (host : Host W) (e : LifecycleEvent) :
    Dormant s (s.tell host e) := by
  by_cases hhandles : s.handles = 0
  · rw [tell, if_pos hhandles]
    exact .refl hs
  have hpending := pending_tell host e hs.slot hhandles
  rw [tell, if_neg hhandles] at hpending ⊢
  have h := unheard_convey_of_empty (s := (s.record (.told e s.slot)).enter) host e hs.slot
  refine ⟨hs.of_eq h.loop h.slot, fun k hk => ?_, ?_⟩
  · rw [hpending, Pending.contains_defer, Pending.contains_heed, hk, Bool.or_true]
  · have htold : s.journal.GrowsBy
        (Fact.Passive (((s.record (.told e s.slot)).enter.convey host e).leave 1).pending)
        (s.record (.told e s.slot)).enter.journal := by
      refine .cons ⟨hs.slot, fun k hk => ?_⟩
      rw [hpending, Pending.contains_defer, hk, beq_self_eq_true, Bool.true_or]
    exact htold.trans (passive_convey (s := (s.record (.told e s.slot)).enter) host e hs.slot _)

theorem dormant_act (hs : Disconnected s) (host : Host W) (a : Act) :
    Dormant s (s.act host a) := by
  cases a with
  | deed d => exact dormant_perform hs host d
  | tell e => exact dormant_tell hs host e

/-- A collaborator that is called may post requests, which the loop comes to later. -/
theorem dormant_consult (hs : Disconnected s) (host : Host W) {α : Type} {c : Call}
    (hc : ∀ p, (Fact.call c).Passive p) (r : Reaction Deed α W) :
    Dormant s (s.consult host c r) := by
  have h : Dormant s (s.record (.call c)) := .of_pending_eq { hs with } rfl (.cons (hc _))
  exact h.trans (.of_unheard h.disconnected (unheard_consult host c r) (minor_consult host s c r))

theorem dormant_consultFreely (hs : Disconnected s) (host : Host W) {α : Type} {c : Call}
    (hc : ∀ p, (Fact.call c).Passive p) (r : Reaction Act α W) :
    Dormant s (s.consultFreely host c r) := by
  have h : Dormant s { s.record (.call c) with world := r.world } :=
    .of_pending_eq { hs with } rfl (.cons (hc _))
  exact List.foldlRecOn r.during (act host) h fun _ ht a _ =>
    ht.trans (dormant_act ht.disconnected host a)

/-! ## Commands -/

/-- There is no binding to give back. -/
theorem dormant_release (hs : Disconnected s) (host : Host W) : Dormant s (s.release host) := by
  simp only [release, vacate, hs.binding]
  exact .of_pending_eq
    { hs with state := rfl, attempt := rfl, binding := rfl, session := rfl, slot := rfl } rfl
    (.refl _)

/-- There is no retry to take back. -/
theorem cancelRetry_of_disconnected (hs : Disconnected s) : s.cancelRetry = s := by
  simp only [cancelRetry, hs.retry]

theorem dormant_unwatch (hs : Disconnected s) (host : Host W) : Dormant s (s.unwatch host) := by
  unfold unwatch
  split
  · exact .refl hs
  · rename_i id _
    have h : Dormant s ({ s with loop.watching := none }.note (.watchStopped id)) :=
      .of_pending_eq { hs with } rfl (.cons trivial)
    exact h.trans (dormant_consult (c := .unsubscribe id) h.disconnected host (fun _ => trivial) _)

theorem dormant_disconnect (hs : Disconnected s) (host : Host W) :
    Dormant s (s.disconnect host) := by
  have h : Dormant s { s.note .unbinding with loop.retryCount := 0 } :=
    .of_pending_eq { hs with retryCount := rfl } rfl (.cons trivial)
  rw [disconnect, cancelRetry_of_disconnected h.disconnected]
  exact h.trans (dormant_release h.disconnected host)

theorem dormant_announceChange (hs : Disconnected s) (host : Host W) :
    Dormant s (s.announceChange host) := by
  unfold announceChange
  split
  · exact .refl hs
  · rename_i l _
    exact dormant_consultFreely (c := .listener l s.extension) hs host (fun _ => trivial) _

theorem dormant_allowBinds (hs : Disconnected s) : Dormant s s.allowBinds := by
  obtain ⟨t, ht, heq⟩ := exists_allowBinds_eq s
  have h : Dormant s t := by
    rcases ht with ⟨-, rfl⟩ | ⟨-, rfl⟩
    · exact .of_pending_eq { hs with retryCount := rfl } rfl (.cons trivial)
    · exact .refl hs
  rwa [heq, if_neg (by simp [h.disconnected.state])]

/-- A signal lets nobody bind while no connection is wanted. -/
theorem dormant_availabilityChanged (hs : Disconnected s) (host : Host W) (x : Signal)
    (changed : Bool) : Dormant s (s.availabilityChanged host x changed) := by
  have hnote : Dormant s (s.note (.availabilityChanged x)) := dormant_note hs
  unfold availabilityChanged
  generalize s.note (.availabilityChanged x) = t at hnote ⊢
  have htold : Dormant t (if changed then t.announceChange host else t) := by
    split
    · exact dormant_announceChange hnote.disconnected host
    · exact .refl hnote.disconnected
  simp only
  generalize (if changed then t.announceChange host else t) = u at htold ⊢
  have hclosed := dormant_unwatch htold.disconnected host
  have hallowed := hclosed.trans (dormant_allowBinds hclosed.disconnected)
  rw [if_neg (Bool.eq_false_iff.1 hallowed.disconnected.desired)]
  exact (hnote.trans htold).trans hallowed

/-- No session is there that could die. -/
theorem dormant_sessionDied (hs : Disconnected s) (host : Host W) (token : BindToken)
    (cause : DeathCause) : Dormant s (s.sessionDied host token cause) := by
  rw [sessionDied, if_neg (by simp [hs.attempt])]
  exact dormant_note hs

/-- No command but a request for a connection, or one to stop, does anything about it. -/
theorem dormant_obey (hs : Disconnected s) (host : Host W) {c : Command}
    (hc : c ≠ .setEnabled true ∧ c ≠ .flushAndUnbind) (hstop : c ≠ .shutdown) :
    Dormant s (s.obey host c) := by
  cases c with
  | setEnabled enabled =>
    cases enabled with
    | true => exact absurd rfl hc.1
    | false =>
      have h : Dormant s { s with loop.desired := false, loop.flushing := false } :=
        .of_pending_eq { hs with desired := rfl, flushing := rfl } rfl (.refl _)
      exact h.trans (dormant_disconnect h.disconnected host)
  | flushAndUnbind => exact absurd rfl hc.2
  | connected token transport =>
    simp only [obey]
    rw [connected, if_neg (by simp [hs.attempt])]
    exact dormant_note hs
  | sessionDied token cause => exact dormant_sessionDied hs host token cause
  | deathCheck failed =>
    cases failed with
    | none => exact dormant_note hs
    | some token => exact dormant_sessionDied hs host token _
  | retryElapsed generation =>
    simp only [obey]
    rw [retryElapsed, if_neg (by simp [hs.retry])]
    exact dormant_note hs
  | signal id x =>
    simp only [obey, signalled]
    split
    · exact dormant_note hs
    · exact dormant_note hs
    · exact dormant_availabilityChanged hs host x _
  | setChangeListener l => exact .of_pending_eq { hs with } rfl (.refl _)
  | barrier ticket => exact .of_pending_eq { hs with } rfl (.refl _)
  | shutdown => exact absurd rfl hstop

theorem dormant_publish (hs : Disconnected s) : Dormant s s.publish := by
  unfold publish
  split
  · exact .refl hs
  · exact .of_pending_eq { hs with } rfl (.cons trivial)

/-- There is nothing to take down but a subscription. -/
theorem dormant_teardown (hs : Disconnected s) (host : Host W) : Dormant s (s.teardown host) := by
  have hnote : Dormant s (s.note .destroying) := dormant_note hs
  have hclosed := hnote.trans (dormant_unwatch hnote.disconnected host)
  have h := hclosed.trans (dormant_release hclosed.disconnected host)
  unfold teardown
  simp only
  rw [cancelRetry_of_disconnected hnote.disconnected]
  exact { h with disconnected := { h.disconnected with desired := rfl, flushing := rfl } }

theorem dormant_stop (h : Dormant s t) : Dormant s t.stop :=
  { h with disconnected := { h.disconnected with } }

theorem dormant_shutDown (hs : Disconnected s) (host : Host W) : Dormant s (s.shutDown host) := by
  have h := dormant_teardown hs host
  have h' := h.trans (dormant_publish h.disconnected)
  exact dormant_stop (h'.trans (dormant_note h'.disconnected))

theorem dormant_close (hs : Disconnected s) (host : Host W) : Dormant s (s.close host) := by
  have hnote : Dormant s (s.note .allHandlesDropped) := dormant_note hs
  have h := hnote.trans (dormant_teardown hnote.disconnected host)
  exact dormant_stop (h.trans (dormant_publish h.disconnected))

/-- Only requests for a connection end the dormancy. -/
theorem dormant_process (hs : Disconnected s) (host : Host W) {c : Command}
    (hc : c ≠ .setEnabled true ∧ c ≠ .flushAndUnbind) : Dormant s (s.process host c) := by
  have hnote : Dormant s (s.note (.received c)) := dormant_note hs
  unfold process
  simp only
  split
  · rename_i hstop
    rw [hstop] at hnote ⊢
    exact hnote.trans (dormant_shutDown hnote.disconnected host)
  · rename_i hstop
    have h := hnote.trans (dormant_obey hnote.disconnected host hc hstop)
    exact h.trans (dormant_publish h.disconnected)

/-! ## Runs -/

/-- A step is dormant that processes no request for a connection. -/
theorem dormant_step (hs : Disconnected s) (host : Host W) (a : Step W)
    (hc : ∀ c, s.command? a = some c → c ≠ .setEnabled true ∧ c ≠ .flushAndUnbind) :
    Dormant s (s.step host a) := by
  cases a with
  | act a => exact dormant_act hs host a
  | turn =>
    simp only [step, turn]
    split
    · exact .of_pending_eq { hs with } rfl (.cons trivial)
    · exact .refl hs
    · rename_i hrun
      split
      · rename_i c rest hi
        have hs' : Disconnected { s with inbox := rest } := { hs with }
        have h := dormant_process hs' host (hc c (by simp [command?, hrun, hi]))
        exact { h with }
      · split
        · exact .refl hs
        · exact dormant_close hs host
  | fire t =>
    simp only [step]
    split
    · have hs' : Disconnected { s with timers := s.timers.erase t } := { hs with }
      have h := dormant_notify hs' (.retryElapsed t.generation)
      exact { h with }
    · exact .refl hs
  | wait span => exact .of_pending_eq { hs with } rfl (.refl _)
  | leave count => exact .of_pending_eq { hs with } rfl (.refl _)
  | drift w => exact .of_pending_eq { hs with } rfl (.refl _)

/-- So is a run of such steps. -/
theorem dormant_run (hs : Disconnected s) (host : Host W) (as : List (Step W))
    (hc : ∀ c ∈ s.commands host as, c ≠ .setEnabled true ∧ c ≠ .flushAndUnbind) :
    Dormant s (s.run host as) := by
  induction as generalizing s with
  | nil => exact .refl hs
  | cons a as ih =>
    have h := dormant_step hs host a fun c hca => hc c (by simp [commands, hca])
    exact h.trans (ih h.disconnected fun c hmem => hc c (by simp [commands, hmem]))

/-- To disable is to end the connection, or the attempts to make one, and nothing else. -/
theorem process_disable (host : Host W) (s : System W) :
    Disconnected (s.process host (.setEnabled false)) ∧
    (s.process host (.setEnabled false)).pending = s.pending ∧
    (s.process host (.setEnabled false)).loop.watching = s.loop.watching := by
  let u : System W := { s.note (.received (.setEnabled false)) with
    loop.desired := false, loop.flushing := false }
  have h : s.process host (.setEnabled false) = (u.disconnect host).publish := rfl
  have hlost : Lost u (u.disconnect host) := lost_disconnect host u
  have hpublish : Still (u.disconnect host) (u.disconnect host).publish := still_publish _
  have hwatching : (u.disconnect host).publish.loop.watching = u.loop.watching := by
    rw [loop_publish, loop_disconnect]
  have hslot : (u.disconnect host).publish.slot = none := hpublish.slot.trans hlost.slot
  rw [h]
  refine ⟨?_, hpublish.pending.trans hlost.pending, hwatching⟩
  constructor <;> first | rw [loop_publish, loop_disconnect] | exact hslot

end System

/-- To be disabled is final until the next request. The command to disable ends the connection,
or the attempts to make one, and leaves alone what waits, the listening level and the
subscription. As long as neither a command to enable nor one to flush is processed after it,
there is no connection and none is being made, the binder, the transports and the notification
center are asked for nothing but to close the subscription, and what callers tell the extension
is deferred and goes on waiting. -/
theorem disabled_until_requested (host : Host W) {a : Step W}
    (ha : s.command? a = some (.setEnabled false)) :
    Disconnected (s.step host a) ∧ (s.step host a).pending = s.pending ∧
    (s.step host a).loop.watching = s.loop.watching ∧
    ∀ as : List (Step W),
      (∀ c ∈ (s.step host a).commands host as, c ≠ .setEnabled true ∧ c ≠ .flushAndUnbind) →
      Dormant (s.step host a) ((s.step host a).run host as) ∧
      ∀ e, ((s.step host a).run host as).handles ≠ 0 →
        (((s.step host a).run host as).tell host e).pending =
          (((s.step host a).run host as).pending.heed e).defer e := by
  have h := System.turned_step host s a
  rw [ha] at h
  generalize s.step host a = t at h ⊢
  cases h with
  | @processed _ rest =>
    obtain ⟨hd, hpending, hwatching⟩ := System.process_disable host { s with inbox := rest }
    refine ⟨hd, hpending, hwatching, fun as hc => ?_⟩
    have h := System.dormant_run hd host as hc
    exact ⟨h, fun e => System.pending_tell host e h.disconnected.slot⟩

/-- The connected supervisor, told that no connection is wanted any more while more reports of
the connection are already in the inbox. -/
def Scenario.unwanted : System World :=
  connected.run Scenario.host [.act (.deed (.ask (.setEnabled false))),
    .act (.deed (.report (.connected ⟨1⟩ ⟨0⟩))), .act (.deed (.report (.died ⟨1⟩)))]

theorem unwanted_click_is_deferred :
    Scenario.unwanted.command? .turn = some (.setEnabled false) ∧
    Disconnected (Scenario.unwanted.run Scenario.host [.turn, .turn, .turn]) ∧
    (Scenario.unwanted.run Scenario.host
      [.turn, .turn, .turn, .act (.tell (.click ⟨7⟩))]).pending.contains .click = true := by
  have hdisable : Scenario.unwanted.command? .turn = some (.setEnabled false) := rfl
  obtain ⟨-, -, -, hlater⟩ := disabled_until_requested Scenario.host hdisable
  obtain ⟨h, htell⟩ := hlater [.turn, .turn] (by decide)
  refine ⟨hdisable, h.disconnected, ?_⟩
  have hclick := htell (.click ⟨7⟩) (by decide)
  exact (congrArg (Pending.contains · .click) hclick).trans rfl

end Supervision
