import Supervision.Proofs.Intent
import Supervision.Proofs.Requests

/-!
# What bears on the retry

A retry is scheduled when a session died or a bind failed, unless one is scheduled already; it is
taken back when the loop disconnects or stops, and used up when it is due. All else leaves it
alone: `Untimed s t` says so, and that nothing was written into the journal that marks how deaths,
binds and retries follow each other (`Fact.isMilestone`). An `Errand` is one of the things that do
not: a retry is scheduled or taken back, or a session died.

A command runs errands, or asks the binder first and then runs errands (`Ventured`). The loop is
busy with one command at a time, so each step of a run either leaves the retry alone, or lets a
timer fire or the clock move on, or stops the loop, or has the loop take a command and venture
what it asks for (`System.timed_step`). The retry that was scheduled is used up in the last of
these only, before the binder is asked.
-/

namespace Supervision

variable {W : Type} {host : Host W} {s t u : System W}

/-! ## Milestones -/

namespace Fact

/-- Facts that mark how deaths, binds and retries follow each other. -/
def isMilestone : Fact → Bool
  | .call (.bind ..) | .note (.received _) | .note (.sessionDied ..) => true
  | .note .unbinding | .note .destroying | .note (.retryScheduled _) => true
  | .note .retrying | .note .retrySkipped | .note (.releasingStale _) => true
  | _ => false

/-- The registry was asked for the package of the extension. -/
def isLookup : Fact → Bool
  | .call (.resolvePackage ..) => true
  | _ => false

/-- A session died. -/
def isDeath : Fact → Bool
  | .note (.sessionDied ..) => true
  | _ => false

/-- What is hearsay is no milestone. -/
theorem isMilestone_of_isHearsay {f : Fact} (h : f.isHearsay = true) : f.isMilestone = false := by
  unfold isHearsay at h
  split at h <;> first | rfl | simp at h

/-- A death is a milestone. -/
theorem isDeath_eq_false {f : Fact} (h : f.isMilestone = false) : f.isDeath = false := by
  unfold isDeath
  split
  · cases h
  · rfl

end Fact

/-- A session died, and the registry was not asked since. -/
def Journal.bereft : Journal → Bool
  | [] => false
  | r :: j => !r.fact.isLookup && (r.fact.isDeath || bereft j)

/-- Only a milestone can tell of a death. -/
theorem Journal.bereft_of_growsBy {i j : Journal} (h : i.GrowsBy (·.isMilestone = false) j)
    (hi : i.bereft = false) : j.bereft = false := by
  refine h.induct (motive := fun j => j.bereft = false) hi fun r j hr hj => ?_
  rw [bereft, hj, Fact.isDeath_eq_false hr, Bool.or_false, Bool.and_false]

/-! ## The retry is left alone -/

/-- The retry and its timer were left alone, and no milestone was written. -/
structure Untimed (s t : System W) : Prop where
  config : t.config = s.config
  clock : t.clock = s.clock
  retry : t.loop.retry = s.loop.retry
  generation : t.loop.generation = s.loop.generation
  timers : t.timers = s.timers
  stopped : s.phase = .stopped → t.phase = .stopped
  held : t.isHeld = true → s.isHeld = true
  inbox : ∃ new, t.inbox = s.inbox ++ new ∧ ∀ g, .retryElapsed g ∉ new
  journal : s.journal.GrowsBy (·.isMilestone = false) t.journal

namespace Untimed

theorem refl (s : System W) : Untimed s s :=
  ⟨rfl, rfl, rfl, rfl, rfl, id, id, ⟨[], by simp⟩, .refl _⟩

theorem trans (h : Untimed s t) (h' : Untimed t u) : Untimed s u where
  config := h'.config.trans h.config
  clock := h'.clock.trans h.clock
  retry := h'.retry.trans h.retry
  generation := h'.generation.trans h.generation
  timers := h'.timers.trans h.timers
  stopped hs := h'.stopped (h.stopped hs)
  held hu := h.held (h'.held hu)
  inbox := by
    obtain ⟨new, ht, hnew⟩ := h.inbox
    obtain ⟨new', hu, hnew'⟩ := h'.inbox
    refine ⟨new ++ new', by rw [hu, ht, List.append_assoc], fun g hg => ?_⟩
    exact (List.mem_append.1 hg).elim (hnew g) (hnew' g)
  journal := h.journal.trans h'.journal

end Untimed

/-- Callers and collaborators have no hand in the retry. -/
theorem Touch.untimed (h : Touch s t) : Untimed s t := by
  have posts (c : Command) (hc : ∀ g, .retryElapsed g ≠ c) :
      ∃ new, s.inbox ++ [c] = s.inbox ++ new ∧ ∀ g, .retryElapsed g ∉ new :=
    ⟨[c], rfl, fun g hg => hc g (List.mem_singleton.1 hg)⟩
  cases h with
  | wrote hf => exact { Untimed.refl s with journal := .cons (Fact.isMilestone_of_isHearsay hf) }
  | sent => exact { Untimed.refl s with journal := .cons rfl }
  | @posted c hc => exact { Untimed.refl s with inbox := posts c fun g hg => by cases hg; cases hc }
  | queued => exact { Untimed.refl s with inbox := posts _ nofun }
  | held h => exact { Untimed.refl s with held := fun ht => h (by simpa [System.isHeld] using ht) }
  | _ => exact { Untimed.refl s with }

/-- What callers and collaborators do leaves the retry alone. -/
theorem Touched.untimed (h : Touched s t) : Untimed s t :=
  h.induct (motive := Untimed s) (.refl s) fun _ _ h hs => hs.trans h.untimed

namespace System

theorem untimed_record {f : Fact} (hf : f.isMilestone = false) : Untimed s (s.record f) :=
  { Untimed.refl s with journal := .cons hf }

theorem untimed_note {n : Note} (hn : (Fact.note n).isMilestone = false) : Untimed s (s.note n) :=
  untimed_record hn

/-! ### Calls and replays -/

/-- A call that is no milestone leaves the retry alone, whatever the collaborator does. -/
theorem untimed_of_call (host : Host W) (s : System W) {α : Type} {c : Call}
    (hc : (Fact.call c).isMilestone = false) (r : Reaction Deed α W) :
    Untimed s (s.consult host c r) :=
  (untimed_record hc).trans (touched_consult host s c r).untimed

theorem untimed_forward (host : Host W) (s : System W) (x : Session) (e : LifecycleEvent) :
    Untimed s (s.forward host x e).1 := by
  obtain ⟨-, a, h⟩ := exists_touched_forward host s x e
  exact (untimed_record rfl).trans h.untimed

/-- An item of a replay is sent, deferred or discarded. -/
theorem untimed_replayItem (host : Host W) (x : Session) (listening : Bool) (s : System W)
    (o : Outcome) (i : Replay.Item) :
    Untimed s (replayItem host x listening (s, o) i).1 := by
  cases i with
  | discard k => exact untimed_note rfl
  | send e =>
    have hannounce : Untimed s (s.announce x listening e) := by
      cases e with
      | stopListening => exact (untimed_note rfl).trans (untimed_note rfl)
      | removed =>
        simp only [announce]
        split
        · exact .refl s
        · exact untimed_note rfl
      | _ => exact untimed_note rfl
    have h : Untimed s ((s.announce x listening e).lower e) := by
      rw [lower_eq]
      exact { hannounce with }
    have hforward := h.trans (untimed_forward host _ x e)
    simp only [replayItem, replayEvent]
    split
    · exact { h with }
    · split <;> rename_i heq <;> rw [heq] at hforward
      · exact hforward
      · exact { hforward with }

/-- So a replay leaves the retry alone. -/
theorem untimed_replay (host : Host W) (s : System W) (x : Session) :
    Untimed s (s.replay host x).1 := by
  have h : Untimed s { s.record (.planned x (Replay.plan s.pending.snapshot s.pending.listening))
      with pending := s.pending.drained } := { Untimed.refl s with journal := .cons rfl }
  simp only [replay]
  exact List.foldlRecOn (motive := fun so : System W × Outcome => Untimed s so.1) _ _ h
    fun so ht i _ => ht.trans (untimed_replayItem host x _ so.1 so.2 i)

/-! ### Watching and letting go -/

theorem untimed_watch (host : Host W) (s : System W) : Untimed s (s.watch host) := by
  unfold watch
  split
  · exact untimed_note rfl
  · have h := fun q a => untimed_of_call host
      { s with nextSubscription := s.nextSubscription + 1 } (c := .subscribe q a) rfl
      (host.subscribe s.world q)
    have hs : Untimed s { s with nextSubscription := s.nextSubscription + 1 } :=
      { Untimed.refl s with }
    simp only
    split
    · exact { (hs.trans (h _ _)).trans (untimed_note rfl) with }
    · exact (hs.trans (h _ _)).trans (untimed_note rfl)

theorem untimed_unwatch (host : Host W) (s : System W) : Untimed s (s.unwatch host) := by
  unfold unwatch
  split
  · exact .refl s
  · rename_i id _
    have h : Untimed s ({ s with loop.watching := none }.note (.watchStopped id)) :=
      { Untimed.refl s with journal := .cons rfl }
    exact h.trans (untimed_of_call host _ rfl _)

/-- To ask whether the extension resolves is to ask the registry. -/
theorem untimed_resolve (host : Host W) (s : System W) :
    Untimed s (s.resolve host).1 ∧ (s.resolve host).1.journal.bereft = false := by
  have h : ∀ (t : System W) (c : Call) w, (Fact.call c).isMilestone = false →
      Untimed t (t.lookedUp c w) := fun t _ _ hc =>
    { Untimed.refl t with journal := .cons hc }
  simp only [resolve]
  split
  · exact ⟨h _ _ _ rfl, rfl⟩
  · refine ⟨(h _ _ _ rfl).trans (h _ _ _ rfl), ?_⟩
    exact Journal.bereft_of_growsBy (h _ _ _ rfl).journal rfl

/-- To ask the registry leaves the retry alone, and every death is seen to afterwards. -/
theorem untimed_checkAvailable (host : Host W) (s : System W) :
    Untimed s (s.checkAvailable host).1 ∧ (s.checkAvailable host).1.journal.bereft = false := by
  obtain ⟨h, hasked⟩ := untimed_resolve host s
  unfold checkAvailable
  split <;> rename_i heq <;> rw [heq] at h hasked
  · exact ⟨h, hasked⟩
  · rename_i t e
    have hwatch : Untimed t ((t.note (.notAvailable e)).watch host) :=
      (untimed_note rfl).trans (untimed_watch host _)
    exact ⟨h.trans hwatch, Journal.bereft_of_growsBy hwatch.journal hasked⟩

theorem untimed_release (host : Host W) (s : System W) : Untimed s (s.release host) := by
  simp only [release]
  split
  · exact { Untimed.refl s with }
  · rename_i b _
    have h : Untimed s
        { s.vacate with loop.session := none, loop.attempt := none, loop.binding := none } :=
      { Untimed.refl s with }
    exact { h.trans (untimed_of_call host _ (c := .unbind b) rfl (host.unbind s.world b)) with }

/-- Nobody who gives up schedules a retry. -/
theorem untimed_giveUp (host : Host W) (s : System W) : Untimed s (s.giveUp host) := by
  obtain ⟨t, ht, heq⟩ := exists_giveUp_eq host s
  have h : Untimed s t := by
    rcases ht with rfl | rfl
    · exact .refl _
    · exact untimed_note rfl
  have h' : Untimed s { t with loop.state := .givingUp } := { h with }
  rw [heq]
  exact h'.trans (untimed_watch host _)

theorem untimed_linkToDeath (host : Host W) (s : System W) (x : Session) :
    Untimed s (s.linkToDeath host x) := by
  have h := fun a => untimed_of_call host s (c := .linkToDeath x a) rfl
    (host.linkToDeath s.world x)
  simp only [linkToDeath]
  split
  · exact h _
  · exact (h _).trans (untimed_note rfl)

/-- To join a session leaves the retry alone, even if it refuses the replay. -/
theorem untimed_join (host : Host W) (s : System W) (x : Session) :
    Untimed s (s.join host x).1 := by
  have hnoted : Untimed s { s.note (.connected x.token) with loop.retryCount := 0 } :=
    { Untimed.refl s with journal := .cons rfl }
  have hlinked := hnoted.trans (untimed_linkToDeath host _ x)
  unfold join
  generalize { s.note (.connected x.token) with loop.retryCount := 0 }.linkToDeath host x = v
    at hlinked ⊢
  have h := untimed_replay host { v with loop.session := some x, loop.state := .connected } x
  have hjoined : Untimed s { v with loop.session := some x, loop.state := .connected } :=
    { hlinked with }
  have hreplayed := hjoined.trans h
  simp only [publishSession]
  split
  · exact hreplayed
  · exact { hreplayed with }

theorem untimed_announceChange (host : Host W) (s : System W) :
    Untimed s (s.announceChange host) := by
  unfold announceChange
  split
  · exact .refl s
  · exact (untimed_record rfl).trans (touched_consultFreely host s _ _).untimed

/-- To set the counter back leaves the retry alone. -/
theorem untimed_allowBinds (s : System W) : Untimed s s.allowBinds := by
  obtain ⟨t, ht, heq⟩ := exists_allowBinds_eq s
  have h : Untimed s t := by
    rcases ht with ⟨-, rfl⟩ | ⟨-, rfl⟩
    · exact { Untimed.refl s with journal := .cons rfl }
    · exact .refl _
  rw [heq]
  split
  · exact { h with }
  · exact h

theorem untimed_publish (s : System W) : Untimed s s.publish := by
  unfold publish
  split
  · exact .refl s
  · exact { Untimed.refl s with journal := .cons rfl }

end System

/-! ## Errands -/

/-- What the loop does about the retry, and what makes it do so. -/
inductive Errand (s : System W) : System W → Prop
  | scheduled (hr : s.loop.retry = none) : Errand s s.scheduleRetry
  /-- The loop disconnects or stops. -/
  | cancelled {n : Note} {t : System W} (hn : n = .unbinding ∨ n = .destroying)
      (h : Untimed (s.note n) t) : Errand s t.cancelRetry
  /-- A session died, and the registry was asked whether the extension is still there. -/
  | died {token : BindToken} {cause : DeathCause} {t : System W}
      (h : Untimed (s.note (.sessionDied token cause)) t) (hasked : t.journal.bereft = false) :
      Errand s t

/-- Errands, one after another. -/
inductive Errands (s : System W) : System W → Prop
  | untimed {t : System W} (h : Untimed s t) : Errands s t
  | snoc {t u v : System W} (h : Errands s t) (he : Errand t u) (hu : Untimed u v) : Errands s v

namespace Errands

theorem refl (s : System W) : Errands s s := .untimed (.refl s)

theorem errand (h : Errand s t) : Errands s t := .snoc (.refl s) h (.refl t)

theorem trans (h : Errands s t) (h' : Errands t u) : Errands s u := by
  induction h' with
  | untimed h' =>
    cases h with
    | untimed h => exact .untimed (h.trans h')
    | snoc h he hu => exact .snoc h he (hu.trans h')
  | snoc _ he hu ih => exact ih.snoc he hu

/-- What each errand keeps is kept. -/
theorem induct {motive : System W → Prop} (h : Errands s t) (hs : motive s)
    (untimed : ∀ s t, Untimed s t → motive s → motive t)
    (errand : ∀ s t, Errand s t → motive s → motive t) : motive t := by
  induction h with
  | untimed h => exact untimed _ _ h hs
  | snoc _ he hu ih => exact untimed _ _ hu (errand _ _ he ih)

end Errands

/-- What a command comes to: errands, or the binder is asked and then they are run. -/
inductive Ventured (s : System W) : System W → Prop
  | errands {t : System W} (h : Errands s t) : Ventured s t
  | asked {q : BindRequest} {a : Except Error BindHandle} {t u : System W} (h : Untimed s t)
      (ht : Errands (t.record (.call (.bind q a))) u) : Ventured s u

namespace Ventured

theorem untimed (h : Untimed s t) : Ventured s t := .errands (.untimed h)

/-- What leaves the retry alone may come before. -/
theorem of_untimed (h : Untimed s t) (h' : Ventured t u) : Ventured s u := by
  cases h' with
  | errands h' => exact .errands ((Errands.untimed h).trans h')
  | asked h' hu => exact .asked (h.trans h') hu

theorem trans (h : Ventured s t) (h' : Errands t u) : Ventured s u := by
  cases h with
  | errands h => exact .errands (h.trans h')
  | asked h hu => exact .asked h (hu.trans h')

end Ventured

namespace System

/-- If no retry is scheduled, one of the next generation is, and a timer is armed for it. -/
theorem scheduleRetry_eq (hr : s.loop.retry = none) :
    s.scheduleRetry = { s.note (.retryScheduled s.config.retryDelay) with
      loop.generation := s.loop.generation + 1
      loop.retry := some (s.loop.generation + 1)
      timers := s.timers ++ [⟨s.loop.generation + 1, s.clock + s.config.retryDelay.toNat⟩] } := by
  simp [scheduleRetry, hr]

/-- To schedule a retry is an errand, or nothing if one is scheduled already. -/
theorem errands_scheduleRetry (s : System W) : Errands s s.scheduleRetry := by
  cases hr : s.loop.retry with
  | none => exact .errand (.scheduled hr)
  | some g =>
    rw [scheduleRetry, hr]
    exact .untimed (untimed_note rfl)

/-- To disconnect takes the retry back. -/
theorem errands_disconnect (host : Host W) (s : System W) : Errands s (s.disconnect host) := by
  have h : Untimed (s.note .unbinding) { s.note .unbinding with loop.retryCount := 0 } :=
    { Untimed.refl (s.note .unbinding) with }
  exact .snoc (.refl s) (.cancelled (.inl rfl) h) (untimed_release host _)

/-- So does the end of a flush. -/
theorem errands_finishFlush (host : Host W) (s : System W) : Errands s (s.finishFlush host) := by
  have h : Untimed s { s with loop.flushing := false, loop.desired := false } :=
    { Untimed.refl s with }
  exact (Errands.untimed h).trans (errands_disconnect host _)

/-- A flush that is over is an errand, since the loop disconnects. -/
theorem errands_endFlush (host : Host W) (s : System W) : Errands s (s.endFlush host) := by
  unfold endFlush
  split
  · exact errands_finishFlush host s
  · exact .refl s

/-- A session only dies while a connection is wanted. -/
theorem errands_sessionDied (host : Host W) {token : BindToken}
    (hd : s.loop.attempt = some token →
      s.loop.state = .connecting ∨ s.loop.state = .connected → s.loop.desired = true)
    (cause : DeathCause) : Errands s (s.sessionDied host token cause) := by
  unfold sessionDied
  split
  · rename_i h
    have hreleased := untimed_release host (s.note (.sessionDied token cause))
    have hdesired : ((s.note (.sessionDied token cause)).release host).loop.desired = true := by
      rw [loop_release]
      exact hd h.1 h.2
    simp only [hdesired, if_true]
    generalize (s.note (.sessionDied token cause)).release host = t at hreleased ⊢
    obtain ⟨hc, hasked⟩ := untimed_checkAvailable host t
    split <;> rename_i heq <;> rw [heq] at hc hasked
    · exact (Errands.errand (.died (hreleased.trans hc) hasked)).trans (errands_scheduleRetry _)
    · exact .errand (.died (hreleased.trans hc) hasked)
  · exact .untimed (untimed_note rfl)

/-- Asking the binder comes before the errand that its refusal gives rise to. -/
theorem ventured_tryBind (host : Host W) (hb : s.loop.binding = none) :
    Ventured s (s.tryBind host) := by
  have hcounted : Untimed s s.trying := { Untimed.refl s with journal := .cons rfl }
  obtain ⟨t, ⟨b, ht, heq⟩ | ⟨e, ht, heq⟩⟩ := exists_tryBind_eq host s
  · have htb : t.loop.binding = none := by
      rw [ht.offstage.loop]
      exact hb
    rw [heq, keepBinding_eq host htb]
    exact .asked hcounted (.untimed { ht.untimed with })
  · have hfailed : Untimed t { t.note (.bindFailed e) with loop.state := .unbound } :=
      { Untimed.refl t with journal := .cons rfl }
    rw [heq]
    exact .asked hcounted
      ((Errands.untimed (ht.untimed.trans hfailed)).trans (errands_scheduleRetry _))

/-- While the loop holds no binding, an attempt is a venture. -/
theorem ventured_attemptBind (host : Host W) (hb : s.loop.binding = none) :
    Ventured s (s.attemptBind host) := by
  obtain ⟨h, -⟩ := untimed_checkAvailable host s
  have hbinding := (tacit_checkAvailable host s).binding_eq_none hb
  unfold attemptBind
  split
  · exact .untimed (untimed_giveUp host s)
  · split <;> rename_i heq <;> rw [heq] at h hbinding
    · exact .of_untimed h (ventured_tryBind host hbinding)
    · exact .untimed { h with }

/-- To see to a connection is a venture, unless an idle loop holds a binding. -/
theorem ventured_bind (host : Host W) (hb : s.loop.state.isIdle → s.loop.binding = none) :
    Ventured s (s.bind host) := by
  unfold bind
  split <;> rename_i hst
  · split
    · exact .errands ((Errands.untimed (untimed_note rfl)).trans (errands_finishFlush host _))
    · exact .errands (.refl s)
  · exact .untimed (untimed_note rfl)
  · exact ventured_attemptBind host (hb (by rw [hst]; rfl))
  · exact ventured_attemptBind host (hb (by rw [hst]; rfl))

/-- So is a request for a connection or for none. -/
theorem ventured_setEnabled (host : Host W) (hb : s.loop.state.isIdle → s.loop.binding = none)
    (enabled : Bool) : Ventured s (s.setEnabled host enabled) := by
  unfold setEnabled
  split
  · have h : Untimed s { s with loop.desired := true } := { Untimed.refl s with }
    exact .of_untimed h (ventured_bind (s := { s with loop.desired := true }) host hb)
  · have h : Untimed s { s with loop.desired := false, loop.flushing := false } :=
      { Untimed.refl s with }
    exact .errands ((Errands.untimed h).trans (errands_disconnect host _))

/-- A connection leaves errands if it refuses the replay, or if a flush waits for it. -/
theorem errands_connected (host : Host W) {token : BindToken} (transport : TransportId)
    (hd : s.loop.state = .connecting → s.loop.desired = true) :
    Errands s (s.connected host token transport) := by
  by_cases h : s.loop.attempt = some token ∧ s.loop.state = .connecting
  · have hjoined := untimed_join host s ⟨token, transport⟩
    have hl := (offstage_join host s ⟨token, transport⟩).loop
    rw [connected_eq host transport h.1 h.2]
    generalize s.join host ⟨token, transport⟩ = j at hjoined hl ⊢
    refine Errands.trans ?_ (errands_endFlush host _)
    have hnoted : Untimed s { j.1.note (.replayFinished token j.2.delivered j.2.dropped) with
        loop.dropped := j.1.loop.dropped + j.2.dropped } :=
      hjoined.trans { Untimed.refl j.1 with journal := .cons rfl }
    refine (Errands.untimed hnoted).trans ?_
    split
    · refine errands_sessionDied host (fun _ _ => ?_) _
      simp only [loop_note, hl]
      exact hd h.2
    · exact .refl _
  · rw [connected, if_neg h]
    exact .untimed (untimed_note rfl)

/-- A signal is a venture of a tidy loop. -/
theorem ventured_availabilityChanged (host : Host W) (ht : Tidy s) (x : Signal) (changed : Bool) :
    Ventured s (s.availabilityChanged host x changed) := by
  have hnote : Untimed s (s.note (.availabilityChanged x)) := untimed_note rfl
  have htidy : Tidy (s.note (.availabilityChanged x)) := ht.of_loop_eq (loop_note s _)
  unfold availabilityChanged
  generalize s.note (.availabilityChanged x) = t at hnote htidy ⊢
  have htold : Untimed t (if changed then t.announceChange host else t) ∧
      Tidy (if changed then t.announceChange host else t) := by
    split
    · exact ⟨untimed_announceChange host t,
        htidy.of_loop_eq (offstage_announceChange host t).loop⟩
    · exact ⟨.refl t, htidy⟩
  simp only
  generalize (if changed then t.announceChange host else t) = u at htold ⊢
  have h := ((hnote.trans htold.1).trans (untimed_unwatch host u)).trans (untimed_allowBinds _)
  split
  · exact .of_untimed (h.trans (untimed_note rfl))
      (ventured_bind host htold.2.of_allowBinds.unburdened)
  · exact .untimed h

/-- All commands but those about a retry that is due venture what they ask for. -/
theorem ventured_obey (host : Host W) {max : UInt32} (hs : s.loop.Sensible max) (ht : Tidy s)
    {c : Command} (hc : c ≠ .shutdown) (hretry : ∀ g, c ≠ .retryElapsed g) :
    Ventured s (s.obey host c) := by
  cases c with
  | setEnabled enabled => exact ventured_setEnabled host ht.unburdened enabled
  | flushAndUnbind =>
    have h : Untimed s { s with loop.flushing := true } := { Untimed.refl s with }
    exact .of_untimed h
      (ventured_setEnabled (s := { s with loop.flushing := true }) host ht.unburdened true)
  | connected token transport =>
    exact .errands (errands_connected host transport fun hst => hs.desired_of_attempt (.inl hst))
  | sessionDied token cause =>
    exact .errands (errands_sessionDied host (fun _ => hs.desired_of_attempt) cause)
  | deathCheck failed =>
    cases failed with
    | none => exact .untimed (untimed_note rfl)
    | some token => exact .errands (errands_sessionDied host (fun _ => hs.desired_of_attempt) _)
  | retryElapsed generation => exact absurd rfl (hretry generation)
  | signal id x =>
    simp only [obey, signalled]
    split
    · exact .untimed (untimed_note rfl)
    · exact .untimed (untimed_note rfl)
    · exact ventured_availabilityChanged host ht x _
  | setChangeListener l => exact .untimed { Untimed.refl s with }
  | barrier ticket => exact .untimed { Untimed.refl s with }
  | shutdown => exact absurd rfl hc

/-- To take everything down takes the retry back. -/
theorem errands_teardown (host : Host W) (s : System W) : Errands s (s.teardown host) := by
  have h := (untimed_unwatch host (s.note .destroying).cancelRetry).trans (untimed_release host _)
  exact .snoc (.refl s) (.cancelled (.inr rfl) (.refl _)) { h with }

end System

/-! ## Steps -/

/-- What a step of a run means for the retry. -/
inductive Timed (s : System W) : System W → Prop
  | untimed {t : System W} (h : Untimed s t) : Timed s t
  | fired {x : Timer} (hx : x ∈ s.timers) (hdue : x.due ≤ s.clock) : Timed s (s.fire x)
  | waited (span : Nat) : Timed s (s.setClock (s.clock + span))
  | processed {c : Command} {rest : List Command} {t : System W} (hi : s.inbox = c :: rest)
      (hc : ∀ g, c ≠ .retryElapsed g)
      (h : Ventured ({ s with inbox := rest }.note (.received c)) t) : Timed s t
  /-- The retry is not the one that is scheduled. -/
  | ignored {g : Nat} {rest : List Command} {t : System W} (hi : s.inbox = .retryElapsed g :: rest)
      (hr : s.loop.retry ≠ some g)
      (h : Untimed ({ s with inbox := rest }.note (.received (.retryElapsed g))) t) : Timed s t
  /-- The scheduled retry is used up. -/
  | retried {g : Nat} {rest : List Command} {t : System W} (hi : s.inbox = .retryElapsed g :: rest)
      (hr : s.loop.retry = some g)
      (h : Ventured (({ s with inbox := rest, loop.retry := none }.note
        (.received (.retryElapsed g))).note .retrying) t) : Timed s t
  | shutDown {rest : List Command} {t : System W} (hi : s.inbox = .shutdown :: rest)
      (h : Errands ({ s with inbox := rest }.note (.received .shutdown)) t) : Timed s t.stop
  | closed {t : System W} (hi : s.inbox = []) (h : Errands (s.note .allHandlesDropped) t) :
      Timed s t.stop

/-- A retry that elapses is the one that is scheduled, or is ignored. -/
theorem System.timed_retryElapsed (hs : Reachable host s) (hopen : s.phase ≠ .stopped) {g : Nat}
    {rest : List Command} (hi : s.inbox = .retryElapsed g :: rest) :
    Timed s ({ s with inbox := rest }.process host (.retryElapsed g)) := by
  by_cases hr : s.loop.retry = some g
  · have hd := (hs.sensible hopen).desired_of_retry hr
    have h := ventured_bind (s := ({ s with inbox := rest, loop.retry := none }.note
      (.received (.retryElapsed g))).note .retrying) host hs.poised.unburdened
    have heq : { s with inbox := rest }.process host (.retryElapsed g) =
        ((({ s with inbox := rest, loop.retry := none }.note
          (.received (.retryElapsed g))).note .retrying).bind host).publish := by
      simp only [process, obey, retryElapsed, loop_note, hr, hd, if_true, reduceCtorEq, if_false]
      rfl
    rw [heq]
    exact .retried hi hr (h.trans (.untimed (untimed_publish _)))
  · have heq : { s with inbox := rest }.process host (.retryElapsed g) =
        (({ s with inbox := rest }.note (.received (.retryElapsed g))).note
          (.retryIgnored g)).publish := by
      simp only [process, obey, retryElapsed, loop_note, hr, if_false, reduceCtorEq]
    rw [heq]
    exact .ignored hi hr ((untimed_note rfl).trans (untimed_publish _))

/-- A turn is timed: the loop starts, processes a command, of which the retry is one of a kind, or
stops. -/
theorem System.timed_turn (hs : Reachable host s) : Timed s (s.turn host) := by
  unfold turn
  split
  · rename_i hp
    exact .untimed { Untimed.refl s with
      journal := .cons rfl
      stopped := fun h => by cases hp.symm.trans h }
  · exact .untimed (.refl s)
  · rename_i hp
    have hopen : s.phase ≠ .stopped := by simp [hp]
    split
    · rename_i c rest hi
      by_cases hstop : c = .shutdown
      · subst hstop
        have h := errands_teardown host ({ s with inbox := rest }.note (.received .shutdown))
        exact .shutDown hi (h.trans (.untimed ((untimed_publish _).trans (untimed_note rfl))))
      · by_cases hretry : ∃ g, c = .retryElapsed g
        · obtain ⟨g, rfl⟩ := hretry
          exact timed_retryElapsed hs hopen hi
        · have hretry : ∀ g, c ≠ .retryElapsed g := fun g h => hretry ⟨g, h⟩
          have h := ventured_obey (s := { s with inbox := rest }.note (.received c)) host
            (hs.sensible hopen) { hs.poised.toTidy with } hstop hretry
          simp only [process, if_neg hstop]
          exact .processed hi hretry (h.trans (.untimed (untimed_publish _)))
    · rename_i hi
      split
      · exact .untimed (.refl s)
      · have h := errands_teardown host (s.note .allHandlesDropped)
        exact .closed hi (h.trans (.untimed (untimed_publish _)))

/-- In a reachable state, each step is timed. -/
theorem System.timed_step (hs : Reachable host s) (a : Step W) : Timed s (s.step host a) := by
  cases a with
  | act a => exact .untimed (touched_act host s a).untimed
  | turn => exact timed_turn hs
  | fire x =>
    simp only [step]
    split
    · rename_i h
      exact .fired h.1 (of_decide_eq_true h.2)
    · exact .untimed (.refl s)
  | wait span => exact .waited span
  | leave count =>
    refine .untimed { Untimed.refl s with held := fun h => ?_ }
    simp only [step, leave, isHeld, Bool.or_eq_true, bne_iff_ne] at h ⊢
    exact h.imp_right fun h hs => h (by rw [hs, Nat.zero_sub])
  | drift w => exact .untimed { Untimed.refl s with }

end Supervision
