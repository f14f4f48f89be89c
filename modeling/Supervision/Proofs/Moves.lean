import Mathlib.Logic.Relation
import Supervision.Proofs.Replaying

/-!
# What a run does to the connection

Seen from the connection and the events, all that ever happens is one of six moves (`Move`):
nothing changes, a caller tells the extension something, the connection is lost, a bind is
accepted, a session is made and the replay to it accepted, or it is made, refuses an event of
the replay, and is lost at once. Each step of a run is a sequence of such moves, apart from
what it takes out of the inbox and from the phase of the loop. So what holds at the start and
is kept by each move holds of all reachable states (`Reachable.induct`).
-/

namespace Supervision

variable {W : Type}

/-! ## Moves -/

/-- What may happen while a collaborator is called that can do all that callers can. -/
def Meanwhile : System W → System W → Prop :=
  Relation.ReflTransGen fun s t => Still s t ∨ ∃ e, Told s e t

/-- The connection was lost, or taken down; the events are left alone. -/
structure Lost (s t : System W) : Prop where
  state : t.loop.state.isIdle
  attempt : t.loop.attempt = none
  session : t.loop.session = none
  slot : t.slot = none
  dropped : t.loop.dropped = s.loop.dropped
  pending : t.pending = s.pending
  phase : t.phase = s.phase
  inbox : s.inbox <+: t.inbox
  nextToken : s.nextToken ≤ t.nextToken
  journal : s.journal.GrowsBy (·.isEventful = false) t.journal

/-- What can happen to the connection and the events. -/
inductive Move (host : Host W) (s : System W) : System W → Prop
  | still {t : System W} (h : Still s t) : Move host s t
  | told {t : System W} {e : LifecycleEvent} (h : Told s e t) : Move host s t
  | lost {t : System W} (h : Lost s t) : Move host s t
  /-- The binder was asked, and accepted a token that was not given out before. -/
  | sought {u : System W} {token : BindToken} (hs : s.loop.state.isIdle) (hu : Meanwhile s u)
      (hge : s.nextToken ≤ token.number) (hlt : token.number < u.nextToken) :
      Move host s { u with loop.attempt := some token, loop.state := .connecting }
  /-- The bind in flight led to a session that accepted the whole replay. -/
  | made {u : System W} {x : Session} {o : System.Outcome} (hs : s.loop.state = .connecting)
      (ha : s.loop.attempt = some x.token)
      (hr : { s with loop.session := some x, loop.state := .connected }.replay host x = (u, o))
      (ho : o.failed = false) :
      Move host s { u with slot := some x, loop.dropped := u.loop.dropped + o.dropped }
  /-- The bind in flight led to a session that refused an event of the replay. -/
  | refused {u t : System W} {x : Session} {o : System.Outcome} (hs : s.loop.state = .connecting)
      (ha : s.loop.attempt = some x.token)
      (hr : { s with loop.session := some x, loop.state := .connected }.replay host x = (u, o))
      (ho : o.failed = true)
      (hl : Lost { u with loop.dropped := u.loop.dropped + o.dropped } t) : Move host s t

/-- Several moves, one after another. -/
abbrev Moves (host : Host W) : System W → System W → Prop := Relation.ReflTransGen (Move host)

namespace Meanwhile

variable {s t u : System W}

/-- What leaves the connection alone may happen meanwhile. -/
theorem still (h : Still s t) : Meanwhile s t := .single (.inl h)

theorem told {e : LifecycleEvent} (h : Told s e t) : Meanwhile s t := .single (.inr ⟨e, h⟩)

/-- What is kept while nothing changes, and when the extension is told something, is kept. -/
theorem induct {motive : System W → Prop} (h : Meanwhile s t) (hs : motive s)
    (still : ∀ s t, Still s t → motive s → motive t)
    (told : ∀ s t e, Told s e t → motive s → motive t) : motive t := by
  induction h with
  | refl => exact hs
  | tail _ h ih =>
    rcases h with h | ⟨e, h⟩
    · exact still _ _ h ih
    · exact told _ _ e h ih

/-- The loop itself does nothing meanwhile, so it stays idle if it was. -/
theorem isIdle (h : Meanwhile s t) (hs : s.loop.state.isIdle) : t.loop.state.isIdle := by
  refine h.induct hs (fun _ _ h hs => h.isIdle hs) fun _ _ _ h hs => ?_
  rwa [h.aside.loop]

/-- Tokens are only drawn, never given back. -/
theorem nextToken_le (h : Meanwhile s t) : s.nextToken ≤ t.nextToken :=
  h.induct (motive := fun t => s.nextToken ≤ t.nextToken) (Nat.le_refl _)
    (fun _ _ h hs => Nat.le_trans hs h.nextToken)
    fun _ _ _ h hs => Nat.le_trans hs h.aside.nextToken

/-- Nobody but the loop changes its phase. -/
theorem phase_eq (h : Meanwhile s t) : t.phase = s.phase :=
  h.induct (motive := fun t => t.phase = s.phase) rfl (fun _ _ h hs => h.phase.trans hs)
    fun _ _ _ h hs => h.aside.phase.trans hs

/-- Commands are posted behind those that wait. -/
theorem inbox_prefix (h : Meanwhile s t) : s.inbox <+: t.inbox :=
  h.induct (motive := fun t => s.inbox <+: t.inbox) List.prefix_rfl
    (fun _ _ h hs => hs.trans h.inbox) fun _ _ _ h hs => hs.trans h.aside.inbox

/-- What happens meanwhile is a sequence of moves. -/
theorem moves (h : Meanwhile s t) (host : Host W) : Moves host s t :=
  h.induct (motive := Moves host s) .refl (fun _ _ h hs => hs.tail (.still h))
    fun _ _ _ h hs => hs.tail (.told h)

end Meanwhile

/-- What was lost after nothing had happened to it was lost. -/
theorem Still.lost {s t u : System W} (h : Still s t) (h' : Lost t u) : Lost s u where
  state := h'.state
  attempt := h'.attempt
  session := h'.session
  slot := h'.slot
  dropped := h'.dropped.trans h.dropped
  pending := h'.pending.trans h.pending
  phase := h'.phase.trans h.phase
  inbox := h.inbox.trans h'.inbox
  nextToken := Nat.le_trans h.nextToken h'.nextToken
  journal := .trans h.journal.uneventful h'.journal

/-- A lost connection stays lost until a bind is tried. -/
theorem Lost.still {s t u : System W} (h : Lost s t) (h' : Still t u) : Lost s u where
  state := h'.isIdle h.state
  attempt := h'.attempt.trans h.attempt
  session := h'.session.trans h.session
  slot := h'.slot.trans h.slot
  dropped := h'.dropped.trans h.dropped
  pending := h'.pending.trans h.pending
  phase := h'.phase.trans h.phase
  inbox := h.inbox.trans h'.inbox
  nextToken := Nat.le_trans h.nextToken h'.nextToken
  journal := .trans h.journal h'.journal.uneventful

/-- A connection may be let go of twice. -/
theorem Lost.trans {s t u : System W} (h : Lost s t) (h' : Lost t u) : Lost s u where
  state := h'.state
  attempt := h'.attempt
  session := h'.session
  slot := h'.slot
  dropped := h'.dropped.trans h.dropped
  pending := h'.pending.trans h.pending
  phase := h'.phase.trans h.phase
  inbox := h.inbox.trans h'.inbox
  nextToken := Nat.le_trans h.nextToken h'.nextToken
  journal := .trans h.journal h'.journal

theorem Still.moves {s t : System W} (h : Still s t) (host : Host W) : Moves host s t :=
  .single (.still h)

theorem Lost.moves {s t : System W} (h : Lost s t) (host : Host W) : Moves host s t :=
  .single (.lost h)

namespace Move

variable {host : Host W} {s t : System W}

/-- A move stops no loop. -/
theorem phase_eq (h : Move host s t) : t.phase = s.phase := by
  cases h with
  | still h => exact h.phase
  | told h => exact h.aside.phase
  | lost h => exact h.phase
  | sought _ hu => exact hu.phase_eq
  | made _ _ hr => exact (System.aside_of_replay hr).phase
  | refused _ _ hr _ hl => exact hl.phase.trans (System.aside_of_replay hr).phase

/-- A move takes no command out of the inbox. -/
theorem inbox_prefix (h : Move host s t) : s.inbox <+: t.inbox := by
  cases h with
  | still h => exact h.inbox
  | told h => exact h.aside.inbox
  | lost h => exact h.inbox
  | sought _ hu => exact hu.inbox_prefix
  | made _ _ hr => exact (System.aside_of_replay hr).inbox
  | refused _ _ hr _ hl => exact (System.aside_of_replay hr).inbox.trans hl.inbox

/-- A move gives back no token. -/
theorem nextToken_le (h : Move host s t) : s.nextToken ≤ t.nextToken := by
  cases h with
  | still h => exact h.nextToken
  | told h => exact h.aside.nextToken
  | lost h => exact h.nextToken
  | sought _ hu => exact hu.nextToken_le
  | made _ _ hr => exact (System.aside_of_replay hr).nextToken
  | refused _ _ hr _ hl => exact Nat.le_trans (System.aside_of_replay hr).nextToken hl.nextToken

end Move

namespace Moves

variable {host : Host W} {s t : System W}

/-- What each move keeps is kept. -/
theorem induct {motive : System W → Prop} (h : Moves host s t) (hs : motive s)
    (move : ∀ s t, Move host s t → motive s → motive t) : motive t := by
  induction h with
  | refl => exact hs
  | tail _ h ih => exact move _ _ h ih

theorem phase_eq (h : Moves host s t) : t.phase = s.phase :=
  h.induct (motive := fun t => t.phase = s.phase) rfl fun _ _ h hs => h.phase_eq.trans hs

theorem inbox_prefix (h : Moves host s t) : s.inbox <+: t.inbox :=
  h.induct (motive := fun t => s.inbox <+: t.inbox) List.prefix_rfl
    fun _ _ h hs => hs.trans h.inbox_prefix

end Moves

namespace System

variable {host : Host W} {s : System W}

/-! ## What leaves the connection alone -/

/-- A retry concerns the timers only. -/
theorem still_scheduleRetry (s : System W) : Still s s.scheduleRetry := by
  unfold scheduleRetry
  split
  · exact still_note rfl
  · exact { Still.refl s with journal := .cons rfl }

theorem still_cancelRetry (s : System W) : Still s s.cancelRetry := by
  unfold cancelRetry
  split
  · exact .refl s
  · exact { Still.refl s with }

/-- A subscription is opened, or refused. -/
theorem still_watch (host : Host W) (s : System W) : Still s (s.watch host) := by
  unfold watch
  split
  · exact still_note rfl
  · simp only
    generalize hq : (⟨⟨s.nextSubscription⟩, s.extension.user⟩ : SubscriptionRequest) = q
    generalize host.subscribe s.world q = r
    have h : Still s { s with nextSubscription := s.nextSubscription + 1 } :=
      { Still.refl s with }
    have h' := h.trans (still_consult host (c := .subscribe q r.answer) rfl r)
    split
    · exact { h' with journal := h'.journal.trans (.cons rfl) }
    · exact h'.trans (still_note rfl)

/-- The open subscription is closed. -/
theorem still_unwatch (host : Host W) (s : System W) : Still s (s.unwatch host) := by
  unfold unwatch
  split
  · exact .refl s
  · rename_i id _
    have h : Still s ({ s with loop.watching := none }.note (.watchStopped id)) :=
      { Still.refl s with journal := .cons rfl }
    exact h.trans (still_consult host rfl _)

/-- The registry just answers. -/
theorem still_resolve (host : Host W) (s : System W) : Still s (s.resolve host).1 := by
  have h : ∀ (s : System W) (c : Call) w, (Fact.call c).isQuiet → Still s (s.lookedUp c w) :=
    fun s _ _ hc => { Still.refl s with journal := .cons hc }
  simp only [resolve]
  split
  · exact h _ _ _ rfl
  · exact (h _ _ _ rfl).trans (h _ _ _ rfl)

/-- An extension that is not there is watched for. -/
theorem still_checkAvailable (host : Host W) (s : System W) :
    Still s (s.checkAvailable host).1 := by
  have h := still_resolve host s
  unfold checkAvailable
  split <;> rename_i heq <;> rw [heq] at h
  · exact h
  · exact h.trans ((still_note rfl).trans (still_watch host _))

/-- Whether or not a session can be watched, nothing else comes of asking. -/
theorem unheard_linkToDeath (host : Host W) (s : System W) (x : Session) :
    Unheard s (s.linkToDeath host x) := by
  have h := fun a => (unheard_record (s := s) (f := .call (.linkToDeath x a)) rfl).trans
    (unheard_consult host (.linkToDeath x a) (host.linkToDeath s.world x))
  simp only [linkToDeath]
  split
  · exact h _
  · exact (h _).trans (unheard_note rfl)

theorem still_publish (s : System W) : Still s s.publish := by
  unfold publish
  split
  · exact .refl s
  · exact { Still.refl s with journal := .cons rfl }

/-- A loop that gave up is unbound again, and idle before and after. -/
theorem still_allowBinds (s : System W) : Still s s.allowBinds := by
  obtain ⟨t, ht, heq⟩ := exists_allowBinds_eq s
  have h : Still s t := by
    rcases ht with ⟨-, rfl⟩ | ⟨-, rfl⟩
    · exact { Still.refl s with journal := .cons rfl }
    · exact .refl _
  rw [heq]
  split
  · rename_i ht
    exact h.trans { Still.refl t with state := .inr ⟨by rw [ht]; rfl, rfl⟩ }
  · exact h

/-- A loop that gives up was idle and stays so. -/
theorem still_giveUp (host : Host W) (hs : s.loop.state.isIdle) : Still s (s.giveUp host) := by
  obtain ⟨t, ht, heq⟩ := exists_giveUp_eq host s
  have h : Still s t := by
    rcases ht with rfl | rfl
    · exact .refl _
    · exact still_note rfl
  have h' : Still s { t with loop.state := .givingUp } := { h with state := .inr ⟨hs, rfl⟩ }
  rw [heq]
  exact h'.trans (still_watch host _)

/-! ## What loses it -/

/-- To let go of the session and of the binding loses the connection. -/
theorem lost_release (host : Host W) (s : System W) : Lost s (s.release host) := by
  simp only [release]
  split
  · exact ⟨rfl, rfl, rfl, rfl, rfl, rfl, rfl, List.prefix_rfl, Nat.le_refl _, .refl _⟩
  · rename_i b _
    have h := still_consult (s := { s.vacate with
      loop.session := none, loop.attempt := none, loop.binding := none }) host
      (c := .unbind b) rfl (host.unbind s.world b)
    exact { h with
      state := rfl
      journal := h.journal.uneventful }

/-- So does a request not to be connected. -/
theorem lost_disconnect (host : Host W) (s : System W) : Lost s (s.disconnect host) := by
  have h := lost_release host { s.note .unbinding with loop.retryCount := 0 }.cancelRetry
  have h' := (still_cancelRetry { s.note .unbinding with loop.retryCount := 0 }).lost h
  exact { h' with journal := .trans (.cons rfl) h'.journal }

theorem lost_finishFlush (host : Host W) (s : System W) : Lost s (s.finishFlush host) :=
  { lost_disconnect host { s with loop.flushing := false, loop.desired := false } with }

/-- So does the end of the supervisor. -/
theorem lost_teardown (host : Host W) (s : System W) : Lost s (s.teardown host) := by
  have h := (still_cancelRetry (s.note .destroying)).trans (still_unwatch host _)
  have h' := h.lost (lost_release host _)
  have hd : Lost s (((s.note .destroying).cancelRetry.unwatch host).release host) :=
    { h' with journal := .trans (.cons rfl) h'.journal }
  exact { hd with }

/-- The attempt or session at hand is lost when it dies. -/
theorem lost_sessionDied (host : Host W) {token : BindToken} (cause : DeathCause)
    (ha : s.loop.attempt = some token) (hs : ¬s.loop.state.isIdle) :
    Lost s (s.sessionDied host token cause) := by
  have hstate : s.loop.state = .connecting ∨ s.loop.state = .connected := by
    revert hs
    cases s.loop.state <;> simp [ConnectionState.isIdle]
  have hr := lost_release host (s.note (.sessionDied token cause))
  have h : Lost s ((s.note (.sessionDied token cause)).release host) :=
    { hr with journal := .trans (.cons rfl) hr.journal }
  unfold sessionDied
  rw [if_pos ⟨ha, hstate⟩]
  simp only
  split
  · have hc := still_checkAvailable host ((s.note (.sessionDied token cause)).release host)
    split <;> rename_i heq <;> rw [heq] at hc
    · exact h.still (hc.trans (still_scheduleRetry _))
    · exact h.still hc
  · exact h

/-- A death loses the connection, or is ignored. -/
theorem sessionDied_moves (host : Host W) (s : System W) (token : BindToken)
    (cause : DeathCause) : Moves host s (s.sessionDied host token cause) := by
  by_cases h : s.loop.attempt = some token ∧
      (s.loop.state = .connecting ∨ s.loop.state = .connected)
  · refine (lost_sessionDied host cause h.1 fun hi => ?_).moves host
    rcases h.2 with h | h <;> rw [h] at hi <;> cases hi
  · unfold sessionDied
    rw [if_neg h]
    exact (still_note rfl).moves host

/-! ## The loop's own moves -/

/-- A collaborator that can do all that callers can tells the extension what it likes. -/
theorem meanwhile_consultFreely (host : Host W) {α : Type} {c : Call} (hc : (Fact.call c).isQuiet)
    (r : Reaction Act α W) : Meanwhile s (s.consultFreely host c r) := by
  have h : Still s { s.record (.call c) with world := r.world } :=
    { Still.refl s with journal := .cons hc }
  refine List.foldlRecOn r.during (act host) (Meanwhile.still h) fun t ht a _ => ht.trans ?_
  cases a with
  | deed d => exact Meanwhile.still (unheard_perform host d).still
  | tell e => exact Meanwhile.told (told_tell host t e)

/-- All that keeping a binding does to the connection is that its token is the attempt. -/
theorem exists_keepBinding_eq (host : Host W) (s : System W) (token : BindToken) (b : BindHandle) :
    ∃ t, Still s t ∧ s.keepBinding host token b =
      { t with loop.attempt := some token, loop.state := .connecting } := by
  have h : Still s { s with loop.binding := some b } := { Still.refl s with }
  simp only [keepBinding]
  split
  · exact ⟨_, h, rfl⟩
  · exact ⟨_, h.trans ((still_note rfl).trans (still_consult host rfl _)), rfl⟩

/-- A bind that is tried is the one move that makes an attempt. -/
theorem tryBind_moves (host : Host W) (hs : s.loop.state.isIdle) :
    Moves host s (s.tryBind host) := by
  simp only [tryBind]
  generalize ht : ({ s with
    loop.retryCount := s.loop.retryCount + 1, nextToken := s.nextToken + 1 }.note
      (.binding ⟨s.nextToken⟩ (s.loop.retryCount + 1)) : System W) = t
  generalize hq : (⟨⟨s.nextToken⟩, s.extension, s.config.flags⟩ : BindRequest) = q
  generalize hr : host.bind t.world q = r
  have hst : Still s t := by
    subst ht
    exact { Still.refl s with nextToken := Nat.le_succ _, journal := .cons rfl }
  have hlt : s.nextToken < t.nextToken := by
    subst ht
    exact Nat.lt_succ_self _
  have hu : Meanwhile t (t.consultFreely host (.bind q r.answer) r) :=
    meanwhile_consultFreely host rfl r
  split
  · rename_i b _
    obtain ⟨v, hv, heq⟩ := exists_keepBinding_eq host
      (t.consultFreely host (.bind q r.answer) r) ⟨s.nextToken⟩ b
    rw [heq]
    refine .single (.sought hs ((Meanwhile.still hst).trans (hu.trans (Meanwhile.still hv))) ?_ ?_)
    · exact Nat.le_refl _
    · exact Nat.lt_of_lt_of_le hlt (Nat.le_trans hu.nextToken_le hv.nextToken)
  · refine (hst.moves host).trans ((hu.moves host).trans (Still.moves ?_ host))
    refine .trans ?_ (still_scheduleRetry _)
    exact { Still.refl (t.consultFreely host (.bind q r.answer) r) with
      state := .inr ⟨hu.isIdle (hst.isIdle hs), rfl⟩
      journal := .cons rfl }

/-- If no bind is allowed, or the extension is not there, the connection is left alone. -/
theorem attemptBind_moves (host : Host W) (hs : s.loop.state.isIdle) :
    Moves host s (s.attemptBind host) := by
  have h := still_checkAvailable host s
  unfold attemptBind
  split
  · exact (still_giveUp host hs).moves host
  · split <;> rename_i t heq <;> rw [heq] at h
    · exact (h.moves host).trans (tryBind_moves host (h.isIdle hs))
    · have ht : Still s { t with loop.state := .unbound } := { h with state := .inr ⟨hs, rfl⟩ }
      exact ht.moves host

/-- A loop that has a connection or a bind in flight tries none. -/
theorem bind_moves (host : Host W) (s : System W) : Moves host s (s.bind host) := by
  unfold bind
  split
  · split
    · exact ((still_note rfl).lost (lost_finishFlush host _)).moves host
    · exact .refl
  · exact (still_note rfl).moves host
  · rename_i h
    exact attemptBind_moves host (by rw [h]; rfl)
  · rename_i h
    exact attemptBind_moves host (by rw [h]; rfl)

theorem setEnabled_moves (host : Host W) (s : System W) (enabled : Bool) :
    Moves host s (s.setEnabled host enabled) := by
  unfold setEnabled
  split
  · have h : Still s { s with loop.desired := true } := { Still.refl s with }
    exact (h.moves host).trans (bind_moves host _)
  · have h := lost_disconnect host { s with loop.desired := false, loop.flushing := false }
    exact .single (.lost { h with })

/-- A session that joins is made, or refuses the replay and dies of it. -/
theorem publishSession_moves (host : Host W) {x : Session} {o : Outcome} {t : System W}
    (hs : s.loop.state = .connecting) (ha : s.loop.attempt = some x.token)
    (hr : { s with loop.session := some x, loop.state := .connected }.replay host x = (t, o)) :
    Moves host s (
      let t := { (if o.failed then t else { t with slot := some x }).note
          (.replayFinished x.token o.delivered o.dropped) with
        loop.dropped := t.loop.dropped + o.dropped }
      if o.failed then t.sessionDied host x.token .dispatchFailed else t) := by
  have hnote : ∀ t : System W, Still t (t.note (.replayFinished x.token o.delivered o.dropped)) :=
    fun _ => still_note rfl
  have haside := aside_of_replay hr
  cases ho : o.failed with
  | false =>
    simp only [Bool.false_eq_true, if_false]
    exact .trans (.single (.made hs ha hr ho)) ((hnote _).moves host)
  | true =>
    simp only [if_true]
    have hta : t.loop.attempt = some x.token := by rw [haside.loop, ← ha]
    have hts : t.loop.state = .connected := by rw [haside.loop]
    refine .single (.refused hs ha hr ho ((hnote _).lost (lost_sessionDied host _ hta ?_)))
    exact fun hi => by cases hts ▸ hi

/-- A report of a connection makes a session of the bind in flight, or is ignored. -/
theorem connected_moves (host : Host W) (s : System W) (token : BindToken)
    (transport : TransportId) : Moves host s (s.connected host token transport) := by
  -- a flush may end the connection whatever came of it
  have hflush : ∀ {t : System W}, Moves host s t →
      Moves host s (if t.loop.flushing then t.finishFlush host else t) := by
    intro t ht
    split
    · exact ht.trans ((lost_finishFlush host t).moves host)
    · exact ht
  unfold connected
  split
  · rename_i h
    simp only [publishSession]
    refine hflush ?_
    generalize hx : (⟨token, transport⟩ : Session) = x
    obtain rfl : token = x.token := by rw [← hx]
    have hnoted : Still s { s.note (.connected x.token) with loop.retryCount := 0 } :=
      { Still.refl s with journal := .cons rfl }
    have hlink := hnoted.trans (unheard_linkToDeath host _ x).still
    generalize { s.note (.connected x.token) with loop.retryCount := 0 }.linkToDeath host x = u
      at hlink
    have hs : u.loop.state = .connecting := by
      rcases hlink.state with hst | ⟨hi, -⟩
      · rw [hst, h.2]
      · rw [h.2] at hi
        cases hi
    have ha : u.loop.attempt = some x.token := by rw [hlink.attempt, h.1]
    refine (hlink.moves host).trans ?_
    cases hr : { u with loop.session := some x, loop.state := .connected }.replay host x with
    | mk v o =>
      have h := publishSession_moves host hs ha hr
      cases ho : o.failed <;> simpa [ho] using h
  · exact (still_note rfl).moves host

/-- A retry makes an attempt, or is ignored. -/
theorem retryElapsed_moves (host : Host W) (s : System W) (generation : Nat) :
    Moves host s (s.retryElapsed host generation) := by
  unfold retryElapsed
  split
  · have h : ∀ n : Note, (Fact.note n).isQuiet →
        Still s ({ s with loop.retry := none }.note n) := fun _ hn =>
      { Still.refl s with journal := .cons hn }
    simp only
    split
    · exact ((h _ rfl).moves host).trans (bind_moves host _)
    · exact (h _ rfl).moves host
  · exact (still_note rfl).moves host

/-- The change listener may do all that callers can. -/
theorem meanwhile_announceChange (host : Host W) (s : System W) :
    Meanwhile s (s.announceChange host) := by
  unfold announceChange
  split
  · exact .refl
  · exact meanwhile_consultFreely host rfl _

theorem signalled_moves (host : Host W) (s : System W) (id : Subscription) (x : Signal) :
    Moves host s (s.signalled host id x) := by
  unfold signalled
  split
  · exact (still_note rfl).moves host
  · exact (still_note rfl).moves host
  · rename_i changed _
    simp only [availabilityChanged]
    have hn : Moves host s (s.note (.availabilityChanged x)) := (still_note rfl).moves host
    generalize s.note (.availabilityChanged x) = t at hn
    have hu : Moves host t (if changed then t.announceChange host else t) := by
      split
      · exact (meanwhile_announceChange host t).moves host
      · exact .refl
    generalize (if changed then t.announceChange host else t) = u at hu
    refine (hn.trans hu).trans ?_
    have hv := (still_unwatch host u).trans (still_allowBinds _)
    split
    · exact ((hv.trans (still_note rfl)).moves host).trans (bind_moves host _)
    · exact hv.moves host

/-- All that a command does to the connection and the events is a sequence of moves. -/
theorem obey_moves (host : Host W) (s : System W) {c : Command} (hc : c ≠ .shutdown) :
    Moves host s (s.obey host c) := by
  cases c with
  | setEnabled enabled => exact setEnabled_moves host s enabled
  | flushAndUnbind =>
    have h : Still s { s with loop.flushing := true } := { Still.refl s with }
    exact (h.moves host).trans (setEnabled_moves host _ true)
  | connected token transport => exact connected_moves host s token transport
  | sessionDied token cause => exact sessionDied_moves host s token cause
  | deathCheck failed =>
    cases failed with
    | none => exact (still_note rfl).moves host
    | some token => exact sessionDied_moves host s token _
  | retryElapsed generation => exact retryElapsed_moves host s generation
  | signal id x => exact signalled_moves host s id x
  | setChangeListener l => exact .single (.still { Still.refl s with })
  | barrier ticket => exact .single (.still { Still.refl s with })
  | shutdown => exact absurd rfl hc

theorem process_moves (host : Host W) (s : System W) {c : Command} (hc : c ≠ .shutdown) :
    Moves host s (s.process host c) := by
  simp only [process, if_neg hc]
  exact ((still_note rfl).moves host).trans
    ((obey_moves host _ hc).trans ((still_publish _).moves host))

end System

/-! ## Runs -/

/-- Whether a step is the loop's. -/
def Step.isTurn : Step W → Bool
  | .turn => true
  | _ => false

/-- What a step of a run does: it is a move, or the loop starts, processes a command, or takes
everything down and stops. A running loop with a command in its inbox does not just move. -/
inductive Stepped (host : Host W) (a : Step W) (s : System W) : System W → Prop
  | moved {t : System W} (h : Move host s t)
      (ha : a.isTurn → s.phase = .running → s.inbox = []) : Stepped host a s t
  | started (hs : s.phase = .ready) :
      Stepped host a s { s.note .loopStarted with phase := .running }
  | processed {c : Command} {rest : List Command} (hs : s.phase = .running)
      (hi : s.inbox = c :: rest) (hc : c ≠ .shutdown) :
      Stepped host a s ({ s with inbox := rest }.process host c)
  | stopped {inbox : List Command} {t : System W} (hs : s.phase = .running)
      (h : Lost { s with inbox := inbox } t) : Stepped host a s t.stop

theorem Stepped.of_move {host : Host W} {a : Step W} {s t : System W} (h : Move host s t)
    (ha : a.isTurn = false) : Stepped host a s t :=
  .moved h fun hturn => absurd hturn (by simp [ha])

namespace System

/-- All that a step does, apart from the inbox and the phase, is a move. -/
theorem stepped_step (host : Host W) (s : System W) (a : Step W) :
    Stepped host a s (s.step host a) := by
  cases a with
  | act a =>
    cases a with
    | deed d => exact .of_move (.still (unheard_perform host d).still) rfl
    | tell e => exact .of_move (.told (told_tell host s e)) rfl
  | turn =>
    simp only [step, turn]
    split
    · exact .started ‹_›
    · rename_i hs
      exact .moved (.still (.refl s)) fun _ hr => absurd (hs.symm.trans hr) (by decide)
    · rename_i hs
      split
      · rename_i c rest hi
        by_cases hc : c = .shutdown
        · simp only [process, hc, if_pos]
          exact .stopped hs ((still_note rfl).lost ((lost_teardown host _).still
            ((still_publish _).trans (still_note rfl))))
        · exact .processed hs hi hc
      · split
        · exact .moved (.still (.refl s)) fun _ _ => ‹_›
        · exact .stopped hs ((still_note rfl).lost ((lost_teardown host _).still
            (still_publish _)))
  | fire t =>
    simp only [step]
    split
    · have h := unheard_notify (s := { s with timers := s.timers.erase t })
        (.retryElapsed t.generation)
      exact .of_move (.still { h.still with }) rfl
    · exact .of_move (.still (.refl s)) rfl
  | wait span => exact .of_move (.still { Still.refl s with }) rfl
  | leave count => exact .of_move (.still { Still.refl s with }) rfl
  | drift w => exact .of_move (.still { Still.refl s with }) rfl

end System

/-- What is kept by each move, and says nothing of the inbox and the phase, is kept by each
step of a run. -/
theorem step_induct {host : Host W} {motive : System W → Prop}
    (mail : ∀ s inbox phase, motive s → motive { s with inbox := inbox, phase := phase })
    (move : ∀ s t, Move host s t → motive s → motive t) {s : System W} (hs : motive s)
    (a : Step W) : motive (s.step host a) := by
  have h := System.stepped_step host s a
  generalize s.step host a = t at h ⊢
  cases h with
  | moved h => exact move _ _ h hs
  | started =>
    exact mail _ s.inbox _ (move _ (s.note .loopStarted) (.still (System.still_note rfl)) hs)
  | processed _ _ hc => exact (System.process_moves host _ hc).induct (mail _ _ s.phase hs) move
  | stopped _ h => exact mail _ [] .stopped (move _ _ (.lost h) (mail _ _ s.phase hs))

/-- What holds at the start, is kept by each move and says nothing of the inbox and the phase
holds of all reachable states. -/
theorem Reachable.induct {host : Host W} {motive : System W → Prop}
    (spawn : ∀ x c w, motive (.spawn x c w))
    (mail : ∀ s inbox phase, motive s → motive { s with inbox := inbox, phase := phase })
    (move : ∀ s t, Move host s t → motive s → motive t) {s : System W} (hs : Reachable host s) :
    motive s := by
  induction hs with
  | spawn x c w _ => exact spawn x c w
  | step _ a ih => exact step_induct mail move ih a

end Supervision
