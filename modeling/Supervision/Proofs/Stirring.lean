import Supervision.Proofs.Pursuit
import Supervision.Proofs.Touching

/-!
# What the loop stirs

The smallest changes of the loop (`Stir`) are those of callers and collaborators, whom it calls,
and a few of its own: a fact is written down, the loop's own fields, the slot, the status or the
timers change, the clock moves on or a timer's command is posted, and availability signals are
asked for, with a number that was not given out before. `Stirred s t` is any sequence of them.

All commands but the one to stop only stir the supervisor (`System.stirred_obey`); beyond that, a
step takes a command out of the inbox and answers its ticket, starts the loop, or stops it
(`System.paced_step`). So whatever each small change keeps of the inbox, of the tickets and of
the numbers of subscriptions is kept by each command, without looking at it again.
-/

namespace Supervision

variable {W : Type} {host : Host W} {s t u : System W}

/-! ## Small changes -/

/-- The ticket of the caller who waits for a command. -/
def Command.ticket? : Command → Option Nat
  | .barrier ticket => some ticket
  | _ => none

/-- The smallest changes of the loop and of those whom it calls. -/
inductive Stir (s : System W) : System W → Prop
  | touched {t : System W} (h : Touch s t) : Stir s t
  | wrote {f : Fact} (hf : f.subscription? = none) : Stir s (s.record f)
  | turned {loop : Loop} {slot : Option Session} {status : Status} {timers : List Timer} :
      Stir s { s with loop := loop, slot := slot, status := status, timers := timers }
  | waited {clock : Nat} : Stir s { s with clock := clock }
  | rang {generation : Nat} (ho : s.isOpen = true) (hs : s.isHeld = true) :
      Stir s (s.enqueue (.retryElapsed generation))
  /-- The notification center was asked for signals. -/
  | asked {a : Except Error Unit} :
      Stir s ({ s with nextSubscription := s.nextSubscription + 1 }.record
        (.call (.subscribe ⟨⟨s.nextSubscription⟩, s.extension.user⟩ a)))

/-- Small changes of the loop and of those whom it calls, one after another. -/
def Stirred : System W → System W → Prop := Relation.ReflTransGen Stir

namespace Stirred

/-- What each small change keeps is kept. -/
theorem induct {motive : System W → Prop} (h : Stirred s t) (hs : motive s)
    (stir : ∀ s t, Stir s t → motive s → motive t) : motive t := by
  induction h with
  | refl => exact hs
  | tail _ h ih => exact stir _ _ h ih

theorem stir (h : Stir s t) : Stirred s t := Relation.ReflTransGen.single h

theorem trans (h : Stirred s t) (h' : Stirred t u) : Stirred s u := Relation.ReflTransGen.trans h h'

theorem tail (h : Stirred s t) (h' : Stir t u) : Stirred s u := Relation.ReflTransGen.tail h h'

/-- What callers and collaborators change in small is stirred. -/
theorem of_touched (h : Touched s t) : Stirred s t :=
  h.induct (motive := Stirred s) .refl fun _ _ h hs => hs.tail (.touched h)

end Stirred

/-! ## What stands -/

/-- The supervisor is for the same extension and in the same phase, and no ticket is over that was
not before. Nothing is taken back of what was posted or written down; and unless commands are
accepted, none is posted, and nobody comes to hold on to the supervisor. -/
structure Steady (s t : System W) : Prop where
  extension : t.extension = s.extension
  phase : t.phase = s.phase
  passed : t.passed = s.passed
  held : t.isHeld = true → s.isHeld = true
  inbox : s.inbox <+: t.inbox
  closed : s.accepts = false → t.inbox = s.inbox
  journal : s.journal <:+ t.journal

namespace Steady

theorem refl (s : System W) : Steady s s :=
  ⟨rfl, rfl, rfl, id, List.prefix_rfl, fun _ => rfl, List.suffix_rfl⟩

/-- Commands that are not accepted now are not accepted later. -/
theorem accepts_eq_false (h : Steady s t) (hs : s.accepts = false) : t.accepts = false := by
  refine Bool.eq_false_iff.2 fun ht => ?_
  simp only [System.accepts, System.isOpen, Bool.and_eq_true, h.phase] at ht
  simp [System.accepts, System.isOpen, h.held ht.1, ht.2] at hs

theorem trans (h : Steady s t) (h' : Steady t u) : Steady s u where
  extension := h'.extension.trans h.extension
  phase := h'.phase.trans h.phase
  passed := h'.passed.trans h.passed
  held hu := h.held (h'.held hu)
  inbox := h.inbox.trans h'.inbox
  closed hs := (h'.closed (h.accepts_eq_false hs)).trans (h.closed hs)
  journal := h.journal.trans h'.journal

/-- A command was posted while commands are accepted. -/
theorem of_enqueue (ho : s.isOpen = true) (hs : s.isHeld = true) (c : Command) :
    Steady s (s.enqueue c) :=
  { Steady.refl s with
    inbox := List.prefix_append ..
    closed := fun h => by simp [System.accepts, ho, hs] at h }

end Steady

/-- Callers and collaborators take nothing back. -/
theorem Touch.steady (h : Touch s t) : Steady s t := by
  cases h with
  | wrote => exact { Steady.refl s with journal := List.suffix_cons .. }
  | sent => exact { Steady.refl s with journal := List.suffix_cons .. }
  | posted _ ho hs => exact .of_enqueue ho hs _
  | queued ho hs => exact { Steady.of_enqueue ho hs (.barrier s.nextTicket) with }
  | held h =>
    refine { Steady.refl s with held := fun ht => h ?_ }
    simpa [System.isHeld] using ht
  | drew => exact { Steady.refl s with }
  | altered => exact { Steady.refl s with }
  | vacated => exact { Steady.refl s with }

/-- Nor does the loop, in any small change. -/
theorem Stir.steady (h : Stir s t) : Steady s t := by
  cases h with
  | touched h => exact h.steady
  | wrote => exact { Steady.refl s with journal := List.suffix_cons .. }
  | turned => exact { Steady.refl s with }
  | waited => exact { Steady.refl s with }
  | rang ho hs => exact .of_enqueue ho hs _
  | asked => exact { Steady.refl s with journal := List.suffix_cons .. }

/-- So nothing is taken back by any number of them. -/
theorem Stirred.steady (h : Stirred s t) : Steady s t :=
  h.induct (motive := Steady s) (.refl s) fun _ _ h hs => hs.trans h.steady

namespace System

/-! ## Calls and replays -/

theorem stirred_note (s : System W) (n : Note) : Stirred s (s.note n) := .stir (.wrote rfl)

/-- A collaborator was called, but not asked for signals. -/
theorem stirred_consult (host : Host W) (s : System W) {α : Type} {c : Call}
    (hc : (Fact.call c).subscription? = none) (r : Reaction Deed α W) :
    Stirred s (s.consult host c r) :=
  (Stirred.stir (.wrote hc)).trans (.of_touched (touched_consult host s c r))

/-- A collaborator that may do everything stirs, unless its answer is one about signals. -/
theorem stirred_consultFreely (host : Host W) (s : System W) {α : Type} {c : Call}
    (hc : (Fact.call c).subscription? = none) (r : Reaction Act α W) :
    Stirred s (s.consultFreely host c r) :=
  (Stirred.stir (.wrote hc)).trans (.of_touched (touched_consultFreely host s c r))

theorem stirred_forward (host : Host W) (s : System W) (x : Session) (e : LifecycleEvent) :
    Stirred s (s.forward host x e).1 := by
  obtain ⟨-, a, h⟩ := exists_touched_forward host s x e
  exact (Stirred.stir (.wrote rfl)).trans (.of_touched h)

theorem stirred_defer (s : System W) (e : LifecycleEvent) : Stirred s (s.defer e) :=
  .stir (.touched (.altered (w := s.world)))

theorem stirred_announce (s : System W) (x : Session) (listening : Bool) (e : LifecycleEvent) :
    Stirred s (s.announce x listening e) := by
  cases e with
  | stopListening => exact (stirred_note s _).trans (stirred_note _ _)
  | removed =>
    simp only [announce]
    split
    · exact .refl
    · exact stirred_note s _
  | _ => exact stirred_note s _

theorem stirred_replayItem (host : Host W) (x : Session) (listening : Bool) (s : System W)
    (o : Outcome) (i : Replay.Item) : Stirred s (replayItem host x listening (s, o) i).1 := by
  cases i with
  | discard k => exact stirred_note s _
  | send e =>
    have hlowered : Stirred s ((s.announce x listening e).lower e) := by
      rw [lower_eq]
      exact (stirred_announce s x listening e).tail (.touched .altered)
    have hforward := hlowered.trans (stirred_forward host _ x e)
    simp only [replayItem, replayEvent]
    split
    · exact hlowered.trans (stirred_defer _ e)
    · split <;> rename_i heq <;> rw [heq] at hforward
      · exact hforward
      · exact hforward.trans (stirred_defer _ e)

/-- A replay is one call after another. -/
theorem stirred_replay (host : Host W) (s : System W) (x : Session) :
    Stirred s (s.replay host x).1 := by
  have h : Stirred s { s.record (.planned x (Replay.plan s.pending.snapshot s.pending.listening))
      with pending := s.pending.drained } :=
    (Stirred.stir (.wrote rfl)).tail (.touched .altered)
  simp only [replay]
  exact List.foldlRecOn (motive := fun so : System W × Outcome => Stirred s so.1) _ _ h
    fun so ht i _ => ht.trans (stirred_replayItem host x _ so.1 so.2 i)

/-! ## Watching and retries -/

/-- To watch is to ask for signals under a new number, or to do nothing. -/
theorem stirred_watch (host : Host W) (s : System W) : Stirred s (s.watch host) := by
  unfold watch
  split
  · exact stirred_note s _
  · simp only
    generalize host.subscribe s.world ⟨⟨s.nextSubscription⟩, s.extension.user⟩ = r
    have h : Stirred s ({ s with nextSubscription := s.nextSubscription + 1 }.consult host
        (.subscribe ⟨⟨s.nextSubscription⟩, s.extension.user⟩ r.answer) r) :=
      (Stirred.stir .asked).trans (.of_touched (touched_consult host _ _ r))
    split
    · exact (h.trans (stirred_note _ _)).tail .turned
    · exact h.trans (stirred_note _ _)

theorem stirred_unwatch (host : Host W) (s : System W) : Stirred s (s.unwatch host) := by
  unfold unwatch
  split
  · exact .refl
  · have h : Stirred s { s with loop.watching := none } := .stir .turned
    exact (h.trans (stirred_note _ _)).trans (stirred_consult host _ rfl _)

/-- A lookup is a call, and a note if it fails. -/
theorem stirred_resolve (host : Host W) (s : System W) : Stirred s (s.resolve host).1 := by
  have h : ∀ (t : System W) (c : Call) w, (Fact.call c).subscription? = none →
      Stirred t (t.lookedUp c w) := fun t _ _ hc =>
    (Stirred.stir (.wrote hc)).tail (.touched (.altered (p := t.pending)))
  simp only [resolve]
  split
  · exact h _ _ _ rfl
  · exact (h _ _ _ rfl).trans (h _ _ _ rfl)

theorem stirred_checkAvailable (host : Host W) (s : System W) :
    Stirred s (s.checkAvailable host).1 := by
  have h := stirred_resolve host s
  unfold checkAvailable
  split <;> rename_i heq <;> rw [heq] at h
  · exact h
  · exact (h.trans (stirred_note _ _)).trans (stirred_watch host _)

/-- A timer that is set is no command yet. -/
theorem stirred_scheduleRetry (s : System W) : Stirred s s.scheduleRetry := by
  unfold scheduleRetry
  split
  · exact stirred_note s _
  · exact (stirred_note s _).tail .turned

/-- A timer that is taken back leaves its command in the inbox, should it be there. -/
theorem stirred_cancelRetry (s : System W) : Stirred s s.cancelRetry := by
  unfold cancelRetry
  split
  · exact .refl
  · exact .stir .turned

/-! ## Binding and letting go -/

theorem stirred_release (host : Host W) (s : System W) : Stirred s (s.release host) := by
  have h : ∀ l : Loop, Stirred s { s.vacate with loop := l } := fun _ => .stir .turned
  simp only [release]
  split
  · exact h _
  · exact ((h _).trans (stirred_consult host _ rfl _)).tail .turned

theorem stirred_disconnect (host : Host W) (s : System W) : Stirred s (s.disconnect host) := by
  have h : Stirred s { s.note .unbinding with loop.retryCount := 0 } :=
    (stirred_note s _).tail .turned
  exact (h.trans (stirred_cancelRetry _)).trans (stirred_release host _)

theorem stirred_finishFlush (host : Host W) (s : System W) : Stirred s (s.finishFlush host) :=
  (Stirred.stir .turned).trans (stirred_disconnect host _)

theorem stirred_endFlush (host : Host W) (s : System W) : Stirred s (s.endFlush host) := by
  unfold endFlush
  split
  · exact stirred_finishFlush host s
  · exact .refl

theorem stirred_giveUp (host : Host W) (s : System W) : Stirred s (s.giveUp host) := by
  obtain ⟨t, ht, heq⟩ := exists_giveUp_eq host s
  have h : Stirred s t := by
    rcases ht with rfl | rfl
    · exact .refl
    · exact stirred_note s _
  rw [heq]
  exact (h.tail .turned).trans (stirred_watch host _)

theorem stirred_keepBinding (host : Host W) (s : System W) (token : BindToken) (b : BindHandle) :
    Stirred s (s.keepBinding host token b) := by
  have h : Stirred s { s with loop.binding := some b } := .stir .turned
  simp only [keepBinding]
  split
  · exact h.tail .turned
  · exact ((h.trans (stirred_note _ _)).trans (stirred_consult host _ rfl _)).tail .turned

/-- To bind is to call the binder and to keep the binding, or to schedule the next try. -/
theorem stirred_tryBind (host : Host W) (s : System W) : Stirred s (s.tryBind host) := by
  have hcounted : Stirred s s.trying :=
    ((Stirred.stir (.touched .drew)).tail .turned).trans (stirred_note _ _)
  have hasked (a : Except Error BindHandle) :
      Stirred s (s.trying.record (.call (.bind s.request a))) := hcounted.tail (.wrote rfl)
  obtain ⟨t, ⟨b, ht, heq⟩ | ⟨e, ht, heq⟩⟩ := exists_tryBind_eq host s
  · have h := (hasked _).trans (.of_touched ht)
    rw [heq]
    exact h.trans (stirred_keepBinding host _ _ _)
  · have h := (hasked _).trans (.of_touched ht)
    rw [heq]
    exact ((h.trans (stirred_note _ _)).tail .turned).trans (stirred_scheduleRetry _)

/-- An attempt gives up, or asks the registry before it binds. -/
theorem stirred_attemptBind (host : Host W) (s : System W) : Stirred s (s.attemptBind host) := by
  have h := stirred_checkAvailable host s
  unfold attemptBind
  split
  · exact stirred_giveUp host s
  · split <;> rename_i heq <;> rw [heq] at h
    · exact h.trans (stirred_tryBind host _)
    · exact h.tail .turned

/-- To see to a connection is to attempt a bind, or to find that there is no need. -/
theorem stirred_bind (host : Host W) (s : System W) : Stirred s (s.bind host) := by
  unfold bind
  split
  · split
    · exact (stirred_note s _).trans (stirred_finishFlush host _)
    · exact .refl
  · exact stirred_note s _
  · exact stirred_attemptBind host s
  · exact stirred_attemptBind host s

theorem stirred_setEnabled (host : Host W) (s : System W) (enabled : Bool) :
    Stirred s (s.setEnabled host enabled) := by
  unfold setEnabled
  split
  · exact (Stirred.stir .turned).trans (stirred_bind host _)
  · exact (Stirred.stir .turned).trans (stirred_disconnect host _)

/-! ## Commands -/

/-- A session that died is released, and a retry scheduled. -/
theorem stirred_sessionDied (host : Host W) (s : System W) (token : BindToken)
    (cause : DeathCause) : Stirred s (s.sessionDied host token cause) := by
  unfold sessionDied
  split
  · have h := (stirred_note s (.sessionDied token cause)).trans (stirred_release host _)
    simp only
    generalize (s.note (.sessionDied token cause)).release host = t at h ⊢
    have hc := h.trans (stirred_checkAvailable host t)
    split
    · split <;> rename_i heq <;> rw [heq] at hc
      · exact hc.trans (stirred_scheduleRetry _)
      · exact hc
    · exact h
  · exact stirred_note s _

theorem stirred_linkToDeath (host : Host W) (s : System W) (x : Session) :
    Stirred s (s.linkToDeath host x) := by
  have h := fun a => stirred_consult host s (c := .linkToDeath x a) rfl
    (host.linkToDeath s.world x)
  simp only [linkToDeath]
  split
  · exact h _
  · exact (h _).trans (stirred_note _ _)

/-- To join a session is to link it to its death and to replay. -/
theorem stirred_join (host : Host W) (s : System W) (x : Session) :
    Stirred s (s.join host x).1 := by
  have hnoted : Stirred s { s.note (.connected x.token) with loop.retryCount := 0 } :=
    (stirred_note s _).tail .turned
  have hlinked := hnoted.trans (stirred_linkToDeath host _ x)
  unfold join
  generalize { s.note (.connected x.token) with loop.retryCount := 0 }.linkToDeath host x = v
    at hlinked ⊢
  have hjoined : Stirred s { v with loop.session := some x, loop.state := .connected } :=
    hlinked.tail .turned
  have hreplayed := hjoined.trans (stirred_replay host _ x)
  simp only [publishSession]
  split
  · exact hreplayed
  · exact hreplayed.tail .turned

/-- A connection that is made is joined, and ends if a flush waited for it. -/
theorem stirred_connected (host : Host W) (s : System W) (token : BindToken)
    (transport : TransportId) : Stirred s (s.connected host token transport) := by
  by_cases h : s.loop.attempt = some token ∧ s.loop.state = .connecting
  · have hjoined := stirred_join host s ⟨token, transport⟩
    rw [connected_eq host transport h.1 h.2]
    generalize s.join host ⟨token, transport⟩ = j at hjoined ⊢
    have hcounted : Stirred s { j.1.note (.replayFinished token j.2.delivered j.2.dropped) with
        loop.dropped := j.1.loop.dropped + j.2.dropped } :=
      (hjoined.trans (stirred_note _ _)).tail .turned
    refine Stirred.trans (hcounted.trans ?_) (stirred_endFlush host _)
    split
    · exact stirred_sessionDied host _ token _
    · exact .refl
  · rw [connected, if_neg h]
    exact stirred_note s _

/-- A retry that is due binds, unless it was taken back. -/
theorem stirred_retryElapsed (host : Host W) (s : System W) (generation : Nat) :
    Stirred s (s.retryElapsed host generation) := by
  have h : Stirred s { s with loop.retry := none } := .stir .turned
  unfold retryElapsed
  split
  · simp only
    split
    · exact (h.trans (stirred_note _ _)).trans (stirred_bind host _)
    · exact h.trans (stirred_note _ _)
  · exact stirred_note s _

theorem stirred_announceChange (host : Host W) (s : System W) :
    Stirred s (s.announceChange host) := by
  unfold announceChange
  split
  · exact .refl
  · exact stirred_consultFreely host s rfl _

theorem stirred_allowBinds (s : System W) : Stirred s s.allowBinds := by
  obtain ⟨t, ht, heq⟩ := exists_allowBinds_eq s
  have h : Stirred s t := by
    rcases ht with ⟨-, rfl⟩ | ⟨-, rfl⟩
    · exact (stirred_note s _).tail .turned
    · exact .refl
  rw [heq]
  split
  · exact h.tail .turned
  · exact h

/-- A signal tells the listener and lets the loop bind, or is ignored. -/
theorem stirred_availabilityChanged (host : Host W) (s : System W) (x : Signal)
    (changed : Bool) : Stirred s (s.availabilityChanged host x changed) := by
  have hnote := stirred_note s (.availabilityChanged x)
  unfold availabilityChanged
  generalize s.note (.availabilityChanged x) = t at hnote ⊢
  have htold : Stirred s (if changed then t.announceChange host else t) := by
    split
    · exact hnote.trans (stirred_announceChange host t)
    · exact hnote
  simp only
  generalize (if changed then t.announceChange host else t) = u at htold ⊢
  have h := (htold.trans (stirred_unwatch host u)).trans (stirred_allowBinds _)
  split
  · exact (h.trans (stirred_note _ _)).trans (stirred_bind host _)
  · exact h

theorem stirred_publish (s : System W) : Stirred s s.publish := by
  unfold publish
  split
  · exact .refl
  · exact (Stirred.stir (.wrote rfl)).tail .turned

theorem stirred_teardown (host : Host W) (s : System W) : Stirred s (s.teardown host) := by
  have h := (stirred_note s .destroying).trans (stirred_cancelRetry _)
  exact ((h.trans (stirred_unwatch host _)).trans (stirred_release host _)).tail .turned

/-- All that a command other than to stop does beyond stirring is to answer its ticket. -/
theorem stirred_obey (host : Host W) (s : System W) {c : Command} (hc : c ≠ .shutdown) :
    Stirred { s with passed := c.ticket?.toList ++ s.passed } (s.obey host c) := by
  cases c with
  | setEnabled enabled => exact stirred_setEnabled host s enabled
  | flushAndUnbind => exact (Stirred.stir .turned).trans (stirred_setEnabled host _ true)
  | connected token transport => exact stirred_connected host s token transport
  | sessionDied token cause => exact stirred_sessionDied host s token cause
  | deathCheck failed =>
    cases failed with
    | none => exact stirred_note s _
    | some token => exact stirred_sessionDied host s token _
  | retryElapsed generation => exact stirred_retryElapsed host s generation
  | signal id x =>
    simp only [obey, signalled]
    split
    · exact stirred_note s _
    · exact stirred_note s _
    · exact stirred_availabilityChanged host s x _
  | setChangeListener l => exact .stir .turned
  | barrier ticket => exact .refl
  | shutdown => exact absurd rfl hc

/-- To obey a command stirs, and answers the ticket of its caller. -/
theorem stirred_process (host : Host W) (s : System W) {c : Command} (hc : c ≠ .shutdown) :
    Stirred { s with passed := c.ticket?.toList ++ s.passed } (s.process host c) := by
  have hnote : Stirred { s with passed := c.ticket?.toList ++ s.passed }
      ({ s with passed := c.ticket?.toList ++ s.passed }.note (.received c)) := stirred_note _ _
  simp only [process, if_neg hc]
  exact (hnote.trans (stirred_obey host (s.note (.received c)) hc)).trans (stirred_publish _)

end System

/-! ## Steps -/

/-- What a step of a run does, apart from stirring the supervisor: `Paced a s c? t` says that the
step `a` processed `c?` and made `t` of `s`. A turn is only idle after the stop, or when the inbox
is empty and somebody holds on to the supervisor. -/
inductive Paced (a : Step W) (s : System W) : Option Command → System W → Prop
  | idled {t : System W} (ha : a.isTurn = true → s.phase = .stopped ∨
      s.phase = .running ∧ s.inbox = [] ∧ s.isHeld = true) (h : Stirred s t) : Paced a s none t
  | started (ha : a.isTurn = true) (hs : s.phase = .ready) :
      Paced a s none { s.note .loopStarted with phase := .running }
  | processed {c : Command} {rest : List Command} {t : System W} (ha : a.isTurn = true)
      (hs : s.phase = .running) (hi : s.inbox = c :: rest) (hc : c ≠ .shutdown)
      (h : Stirred { s with inbox := rest, passed := c.ticket?.toList ++ s.passed } t) :
      Paced a s (some c) t
  | shutDown {rest : List Command} {t : System W} (ha : a.isTurn = true) (hs : s.phase = .running)
      (hi : s.inbox = .shutdown :: rest) (h : Stirred { s with inbox := rest } t) :
      Paced a s (some .shutdown) t.stop
  /-- Nobody holds on to the supervisor, and no command is left. -/
  | closed {t : System W} (ha : a.isTurn = true) (hs : s.phase = .running) (hi : s.inbox = [])
      (hheld : s.isHeld = false) (h : Stirred s t) : Paced a s none t.stop

/-- What is not the loop's turn only stirs the supervisor. -/
theorem Paced.of_stirred {a : Step W} (h : Stirred s t) (ha : a.isTurn = false) :
    Paced a s none t :=
  .idled (fun hturn => by cases hturn.symm.trans ha) h

/-- A timer that fires posts a command, unless that is not accepted. -/
theorem System.stirred_fire (s : System W) (x : Timer) : Stirred s (s.fire x) := by
  have h : Stirred s { s with timers := s.timers.erase x } := .stir .turned
  unfold fire notify
  split
  · exact h.tail (.wrote rfl)
  · rename_i hheld
    split
    · exact h.tail (.rang ‹_› (by simpa using hheld))
    · exact h

/-- A turn starts the loop, processes the first command, or stops the loop if nobody holds on to
it. -/
theorem System.paced_turn (host : Host W) (s : System W) :
    Paced .turn s (s.command? .turn) (s.turn host) := by
  have waiting (h : s.phase ≠ .running) : s.command? .turn = none := if_neg h
  have running (h : s.phase = .running) : s.command? .turn = s.inbox.head? := if_pos h
  have ending (u : System W) : Stirred u (u.teardown host).publish :=
    (stirred_teardown host u).trans (stirred_publish _)
  unfold turn
  split
  · rename_i hs
    rw [waiting (by simp [hs])]
    exact .started rfl hs
  · rename_i hs
    rw [waiting (by simp [hs])]
    exact .idled (fun _ => .inl hs) .refl
  · rename_i hs
    rw [running hs]
    split
    · rename_i c rest hi
      rw [hi, List.head?_cons]
      by_cases hc : c = .shutdown
      · subst hc
        simp only [process, obey, if_true]
        have h := (stirred_note { s with inbox := rest } (.received .shutdown)).trans (ending _)
        exact .shutDown rfl hs hi (h.trans (stirred_note _ .loopTerminated))
      · exact .processed rfl hs hi hc (stirred_process host { s with inbox := rest } hc)
    · rename_i hi
      rw [hi, List.head?_nil]
      split
      · rename_i hheld
        exact .idled (fun _ => .inr ⟨hs, hi, hheld⟩) .refl
      · rename_i hheld
        have h := (stirred_note s .allHandlesDropped).trans (ending _)
        exact .closed rfl hs hi (Bool.eq_false_iff.2 hheld) h

/-- Each step is paced by the command that it takes out of the inbox, if any. -/
theorem System.paced_step (host : Host W) (s : System W) (a : Step W) :
    Paced a s (s.command? a) (s.step host a) := by
  cases a with
  | act a => exact .of_stirred (.of_touched (touched_act host s a)) rfl
  | turn => exact paced_turn host s
  | fire x =>
    simp only [command?, step]
    split
    · exact .of_stirred (stirred_fire s x) rfl
    · exact .of_stirred .refl rfl
  | wait span => exact .of_stirred (.stir .waited) rfl
  | leave count => exact .of_stirred (.of_touched (touched_leave s count)) rfl
  | drift w => exact .of_stirred (.stir (.touched .altered)) rfl

/-- What each small change keeps, and says nothing of the inbox, the tickets that are over and the
phase, is kept by each step of a run. -/
theorem step_stir_induct {motive : System W → Prop}
    (mail : ∀ s inbox passed phase, motive s →
      motive { s with inbox := inbox, passed := passed, phase := phase })
    (stir : ∀ s t, Stir s t → motive s → motive t) (hs : motive s) (a : Step W) :
    motive (s.step host a) := by
  have h := System.paced_step host s a
  generalize s.command? a = c?, s.step host a = t at h ⊢
  cases h with
  | idled _ h => exact h.induct hs stir
  | started =>
    exact mail _ s.inbox s.passed _ ((System.stirred_note s .loopStarted).induct hs stir)
  | processed _ _ _ _ h => exact h.induct (mail s _ _ s.phase hs) stir
  | @shutDown rest u _ _ _ h =>
    exact mail u [] u.passed .stopped (h.induct (mail s rest s.passed s.phase hs) stir)
  | @closed u _ _ _ _ h => exact mail u [] u.passed .stopped (h.induct hs stir)

/-- What is kept by each small change, and says nothing of the inbox, the tickets that are over and
the phase, is kept throughout a run. -/
theorem run_stir_induct {motive : System W → Prop}
    (mail : ∀ s inbox passed phase, motive s →
      motive { s with inbox := inbox, passed := passed, phase := phase })
    (stir : ∀ s t, Stir s t → motive s → motive t) (hs : motive s) (as : List (Step W)) :
    motive (s.run host as) := by
  induction as generalizing s with
  | nil => exact hs
  | cons a as ih => exact ih (step_stir_induct mail stir hs a)

/-- Nothing is taken back of what was written down. -/
theorem System.journal_suffix_run (host : Host W) (s : System W) (as : List (Step W)) :
    s.journal <:+ (s.run host as).journal :=
  run_stir_induct (motive := fun t => s.journal <:+ t.journal) (fun _ _ _ _ h => h)
    (fun _ _ h hs => hs.trans h.steady.journal) List.suffix_rfl as

end Supervision
