import Supervision.Proofs.Books

/-!
# What the binder is asked

Most of what the loop does asks the binder for no bind, publishes no status, and treats the
attempt and its binding alike: both stand, or both are let go of. `Tacit s t` says so. What is
left of a command is at most one bind that is tried in the end, with a token that was never
given out before (`Sought`), and after that the status (`System.sought_step`).

So the journal can be trusted on tokens: each request bears one that was given out, the attempt
is never one that the binder turned down, and the loop has an attempt and a binding exactly
while it is connecting or connected (`Reachable.requested`).
-/

namespace Supervision

variable {W : Type} {host : Host W} {s t u : System W}

/-! ## Nothing asked and nothing published -/

namespace Fact

/-- The fact is neither a request for a bind nor a published status. -/
def isTacit : Fact → Bool
  | .call (.bind ..) | .published _ => false
  | _ => true

variable {f : Fact}

theorem isTacit_of_isEntry_eq_false (h : f.isEntry = false) : f.isTacit = true := by
  unfold isTacit
  split <;> first | rfl | cases h

theorem isBind_eq_false_of_isTacit (h : f.isTacit = true) : f.isBind = false := by
  unfold isBind
  split
  · cases h
  · rfl

end Fact

/-- The attempt and its binding are what they were, or the loop has let go of both. -/
def Loop.Keeps (l l' : Loop) : Prop :=
  l'.attempt = l.attempt ∧ l'.binding = l.binding ∧ l'.state.isIdle = l.state.isIdle ∨
  l'.attempt = none ∧ l'.binding = none ∧ l'.state.isIdle = true

/-- The binder was asked for no bind, no status was published, and the loop made no attempt. -/
structure Tacit (s t : System W) : Prop where
  nextToken : s.nextToken ≤ t.nextToken
  journal : s.journal.GrowsBy (·.isTacit) t.journal
  keeps : s.loop.Keeps t.loop

namespace Tacit

theorem refl (s : System W) : Tacit s s := ⟨Nat.le_refl _, .refl _, .inl ⟨rfl, rfl, rfl⟩⟩

theorem trans (h : Tacit s t) (h' : Tacit t u) : Tacit s u where
  nextToken := Nat.le_trans h.nextToken h'.nextToken
  journal := h.journal.trans h'.journal
  keeps := by
    rcases h'.keeps with ⟨ha, hb, hi⟩ | hu
    · rw [Loop.Keeps, ha, hb, hi]
      exact h.keeps
    · exact .inr hu

/-- Callers and collaborators ask the binder for nothing. -/
theorem of_offstage (h : Offstage s t) : Tacit s t where
  nextToken := h.nextToken
  journal := h.journal.imp fun _ => Fact.isTacit_of_isEntry_eq_false
  keeps := .inl (by rw [h.loop]; exact ⟨rfl, rfl, rfl⟩)

/-- The loop changed in nothing but its other fields. -/
theorem of_loop {l : Loop} (h : Tacit s t) (ha : l.attempt = t.loop.attempt)
    (hb : l.binding = t.loop.binding) (hi : l.state.isIdle = t.loop.state.isIdle) :
    Tacit s { t with loop := l } :=
  h.trans ⟨Nat.le_refl _, .refl _, .inl ⟨ha, hb, hi⟩⟩

/-- An idle loop stays idle. -/
theorem isIdle (h : Tacit s t) (hs : s.loop.state.isIdle) : t.loop.state.isIdle := by
  rcases h.keeps with ⟨-, -, hi⟩ | ⟨-, -, hi⟩
  · rwa [hi]
  · exact hi

/-- No binding comes of anything tacit. -/
theorem binding_eq_none (h : Tacit s t) (hs : s.loop.binding = none) : t.loop.binding = none := by
  rcases h.keeps with ⟨-, hb, -⟩ | ⟨-, hb, -⟩
  · rwa [hb]
  · exact hb

end Tacit

namespace System

theorem tacit_note (s : System W) (n : Note) : Tacit s (s.note n) :=
  ⟨Nat.le_refl _, .cons rfl, .inl ⟨rfl, rfl, rfl⟩⟩

@[simp] theorem nextToken_scheduleRetry (s : System W) :
    s.scheduleRetry.nextToken = s.nextToken := by
  unfold scheduleRetry
  split <;> rfl

/-- To schedule a retry asks for nothing yet. -/
theorem tacit_scheduleRetry (s : System W) : Tacit s s.scheduleRetry := by
  unfold scheduleRetry
  split
  · exact tacit_note s _
  · exact ⟨Nat.le_refl _, .cons rfl, .inl ⟨rfl, rfl, rfl⟩⟩

theorem tacit_cancelRetry (s : System W) : Tacit s s.cancelRetry := by
  unfold cancelRetry
  split
  · exact .refl s
  · exact ⟨Nat.le_refl _, .refl _, .inl ⟨rfl, rfl, rfl⟩⟩

/-- A collaborator other than the binder's `bind` was called, and what happened then was
offstage. -/
theorem tacit_of_call {c : Call} (hc : (Fact.call c).isTacit)
    (h : Offstage (s.record (.call c)) t) : Tacit s t := by
  have hcall : Tacit s (s.record (.call c)) := ⟨Nat.le_refl _, .cons hc, .inl ⟨rfl, rfl, rfl⟩⟩
  exact hcall.trans (.of_offstage h)

theorem tacit_watch (host : Host W) (s : System W) : Tacit s (s.watch host) := by
  have h := watched_watch host s
  generalize s.watch host = t at h ⊢
  cases h with
  | already => exact tacit_note s _
  | opened _ h => exact (tacit_of_call rfl h).of_loop rfl rfl rfl
  | refused _ h => exact tacit_of_call rfl h

theorem tacit_unwatch (host : Host W) (s : System W) : Tacit s (s.unwatch host) := by
  unfold unwatch
  split
  · exact .refl s
  · rename_i id _
    have h : Tacit s ({ s with loop.watching := none }.note (.watchStopped id)) :=
      ⟨Nat.le_refl _, .cons rfl, .inl ⟨rfl, rfl, rfl⟩⟩
    exact h.trans (tacit_of_call rfl (offstage_consult host _ _ _))

theorem tacit_checkAvailable (host : Host W) (s : System W) :
    Tacit s (s.checkAvailable host).1 := by
  obtain ⟨t, ht, h | h⟩ := exists_checkAvailable_eq host s
  · rw [h]
    exact .of_offstage ht
  · rw [h]
    exact (Tacit.of_offstage ht).trans (tacit_watch host t)

/-- To release lets go of the attempt and of its binding. -/
theorem tacit_release (host : Host W) (s : System W) : Tacit s (s.release host) where
  nextToken := (lost_release host s).nextToken
  journal := by
    simp only [release]
    split
    · exact .refl _
    · exact (tacit_of_call (s := { s.vacate with
        loop.session := none, loop.attempt := none, loop.binding := none }) rfl
        (offstage_consult host _ _ _)).journal
  keeps := .inr (by rw [loop_release]; exact ⟨rfl, rfl, rfl⟩)

theorem tacit_disconnect (host : Host W) (s : System W) : Tacit s (s.disconnect host) := by
  have h : Tacit s { s.note .unbinding with loop.retryCount := 0 } :=
    (tacit_note s .unbinding).of_loop rfl rfl rfl
  exact (h.trans (tacit_cancelRetry _)).trans (tacit_release host _)

theorem tacit_finishFlush (host : Host W) (s : System W) : Tacit s (s.finishFlush host) := by
  have h : Tacit s { s with loop.flushing := false, loop.desired := false } :=
    (Tacit.refl s).of_loop rfl rfl rfl
  exact h.trans (tacit_disconnect host _)

theorem tacit_endFlush (host : Host W) (s : System W) : Tacit s (s.endFlush host) := by
  unfold endFlush
  split
  · exact tacit_finishFlush host s
  · exact .refl s

/-- An idle loop that gives up stays idle. -/
theorem tacit_giveUp (host : Host W) (hi : s.loop.state.isIdle) : Tacit s (s.giveUp host) := by
  obtain ⟨t, ht, heq⟩ := exists_giveUp_eq host s
  have h : Tacit s t := by
    rcases ht with rfl | rfl
    · exact .refl _
    · exact tacit_note s _
  have h' : Tacit s { t with loop.state := .givingUp } := h.of_loop rfl rfl (h.isIdle hi).symm
  rw [heq]
  exact h'.trans (tacit_watch host _)

theorem tacit_allowBinds (s : System W) : Tacit s s.allowBinds := by
  obtain ⟨t, ht, heq⟩ := exists_allowBinds_eq s
  have h : Tacit s t := by
    rcases ht with ⟨-, rfl⟩ | ⟨-, rfl⟩
    · exact (tacit_note s _).of_loop rfl rfl rfl
    · exact .refl _
  rw [heq]
  split
  · rename_i ht
    exact h.of_loop rfl rfl (by rw [ht]; rfl)
  · exact h

/-- A session that died is released; the reconnect is for later. -/
theorem tacit_sessionDied (host : Host W) (s : System W) (token : BindToken)
    (cause : DeathCause) : Tacit s (s.sessionDied host token cause) := by
  unfold sessionDied
  split
  · have h := (tacit_note s (.sessionDied token cause)).trans (tacit_release host _)
    simp only
    generalize (s.note (.sessionDied token cause)).release host = t at h ⊢
    have hc := h.trans (tacit_checkAvailable host t)
    split
    · split <;> rename_i heq <;> rw [heq] at hc
      · exact hc.trans (tacit_scheduleRetry _)
      · exact hc
    · exact h
  · exact tacit_note s _

/-- A connection changes nothing about the attempt, or ends it. -/
theorem tacit_connected (host : Host W) (s : System W) (token : BindToken)
    (transport : TransportId) : Tacit s (s.connected host token transport) := by
  by_cases h : s.loop.attempt = some token ∧ s.loop.state = .connecting
  · obtain ⟨dropped, failed, t, ht, heq⟩ := exists_connected_eq host transport h.1 h.2
    have hjoined : Tacit s { s.joined ⟨token, transport⟩ with loop.dropped := dropped } :=
      (tacit_note s (.connected token)).of_loop rfl rfl (by rw [loop_note, h.2]; rfl)
    have hdied : Tacit t (if failed then t.sessionDied host token .dispatchFailed else t) := by
      split
      · exact tacit_sessionDied host t token _
      · exact .refl t
    rw [heq]
    exact ((hjoined.trans (.of_offstage ht)).trans hdied).trans (tacit_endFlush host _)
  · rw [connected, if_neg h]
    exact tacit_note s _

theorem tacit_teardown (host : Host W) (s : System W) : Tacit s (s.teardown host) := by
  have h := (tacit_note s .destroying).trans (tacit_cancelRetry _)
  have h' := (h.trans (tacit_unwatch host _)).trans (tacit_release host _)
  exact h'.of_loop rfl rfl rfl

/-! ## At most one bind -/

/-- Each bind that is tried uses up a token. -/
theorem lt_nextToken_tryBind (host : Host W) (s : System W) :
    s.nextToken < (s.tryBind host).nextToken := by
  have hlt : s.nextToken < s.trying.nextToken := Nat.lt_succ_self _
  obtain ⟨t, ⟨b, ht, heq⟩ | ⟨e, ht, heq⟩⟩ := exists_tryBind_eq host s
  · obtain ⟨u, hu, heq'⟩ := exists_keepBinding_eq host t s.request.token b
    rw [heq, heq']
    exact Nat.lt_of_lt_of_le hlt (Nat.le_trans ht.offstage.nextToken hu.nextToken)
  · have h := tacit_scheduleRetry { t.note (.bindFailed e) with loop.state := .unbound }
    rw [heq]
    exact Nat.lt_of_lt_of_le hlt (Nat.le_trans ht.offstage.nextToken h.nextToken)

end System

/-- What comes of a command, before the status is published: at most one bind was tried, by an
idle loop and as the last thing. -/
inductive Sought (s : System W) : System W → Prop
  | tacit {t : System W} (h : Tacit s t) : Sought s t
  | tried {t u : System W} (h : Tacit s t) (hi : t.loop.state.isIdle) (ht : Tried t u)
      (hlt : t.nextToken < u.nextToken) : Sought s u

/-- What is tacit may come before. -/
theorem Tacit.sought (h : Tacit s t) (h' : Sought t u) : Sought s u := by
  cases h' with
  | tacit h' => exact .tacit (h.trans h')
  | tried h' hi ht hlt => exact .tried (h.trans h') hi ht hlt

/-- No status is published before the end of a command. -/
theorem Sought.unpublished (h : Sought s t) :
    s.journal.GrowsBy (fun f => ∀ x, f ≠ .published x) t.journal := by
  have tacit {u v : System W} (h : Tacit u v) :
      u.journal.GrowsBy (fun f => ∀ x, f ≠ .published x) v.journal :=
    h.journal.imp fun f hf x hx => by simp [hx, Fact.isTacit] at hf
  have asked {u v : System W} {a : Except Error BindHandle} (h : Offstage (u.asked a) v) :
      u.journal.GrowsBy (fun f => ∀ x, f ≠ .published x) v.journal := by
    have hbefore : u.journal.GrowsBy (fun f => ∀ x, f ≠ .published x) (u.asked a).journal :=
      .trans (.cons fun _ hx => Fact.noConfusion hx) (.cons fun _ hx => Fact.noConfusion hx)
    exact hbefore.trans (tacit (.of_offstage h))
  cases h with
  | tacit h => exact tacit h
  | tried h _ ht =>
    refine (tacit h).trans ?_
    cases ht with
    | accepted h =>
      have hj := asked h
      exact hj
    | @failed e v h =>
      have hj := tacit (System.tacit_scheduleRetry { v with loop.state := .unbound })
      exact (asked h).trans hj

namespace System

/-- An attempt ends with a bind that is tried, or with none. -/
theorem sought_attemptBind (host : Host W) (hi : s.loop.state.isIdle)
    (hb : s.loop.binding = none) : Sought s (s.attemptBind host) := by
  have hc := tacit_checkAvailable host s
  unfold attemptBind
  split
  · exact .tacit (tacit_giveUp host hi)
  · split <;> rename_i t heq <;> rw [heq] at hc
    · exact .tried hc (hc.isIdle hi) (tried_tryBind host (hc.binding_eq_none hb))
        (lt_nextToken_tryBind host t)
    · exact .tacit (hc.of_loop rfl rfl (hc.isIdle hi).symm)

/-- Only an idle loop makes an attempt. -/
theorem sought_bind (host : Host W) (hb : s.loop.state.isIdle → s.loop.binding = none) :
    Sought s (s.bind host) := by
  unfold bind
  split <;> rename_i hst
  · split
    · exact .tacit ((tacit_note s _).trans (tacit_finishFlush host _))
    · exact .tacit (.refl s)
  · exact .tacit (tacit_note s _)
  · exact sought_attemptBind host (by rw [hst]; rfl) (hb (by rw [hst]; rfl))
  · exact sought_attemptBind host (by rw [hst]; rfl) (hb (by rw [hst]; rfl))

/-- A request for no connection is tacit. -/
theorem sought_setEnabled (host : Host W) (hb : s.loop.state.isIdle → s.loop.binding = none)
    (enabled : Bool) : Sought s (s.setEnabled host enabled) := by
  unfold setEnabled
  split
  · have h : Tacit s { s with loop.desired := true } := (Tacit.refl s).of_loop rfl rfl rfl
    exact h.sought (sought_bind (s := { s with loop.desired := true }) host hb)
  · have h : Tacit s { s with loop.desired := false, loop.flushing := false } :=
      (Tacit.refl s).of_loop rfl rfl rfl
    exact .tacit (h.trans (tacit_disconnect host _))

/-- A retry that counts makes an attempt. -/
theorem sought_retryElapsed (host : Host W) (hs : Tidy s) (generation : Nat) :
    Sought s (s.retryElapsed host generation) := by
  unfold retryElapsed
  split
  · have h : Tacit s { s with loop.retry := none } := (Tacit.refl s).of_loop rfl rfl rfl
    simp only
    split
    · exact (h.trans (tacit_note _ _)).sought (sought_bind host hs.unburdened)
    · exact .tacit (h.trans (tacit_note _ _))
  · exact .tacit (tacit_note s _)

/-- So does a signal, once the listener was told and the subscription closed. -/
theorem sought_availabilityChanged (host : Host W) (hs : Tidy s) (x : Signal) (changed : Bool) :
    Sought s (s.availabilityChanged host x changed) := by
  obtain ⟨t, u, ht, rfl, heq⟩ := exists_availabilityChanged_eq host s x changed
  have hu : Tidy (t.unwatch host).allowBinds := (hs.of_loop_eq ht.loop).of_allowBinds
  have h : Tacit s (t.unwatch host).allowBinds :=
    ((Tacit.of_offstage ht).trans (tacit_unwatch host t)).trans (tacit_allowBinds _)
  rw [heq]
  split
  · exact (h.trans (tacit_note _ _)).sought (sought_bind host hu.unburdened)
  · exact .tacit h

/-- No command asks for more than one bind. -/
theorem sought_obey (host : Host W) (hs : Tidy s) {c : Command} (hc : c ≠ .shutdown) :
    Sought s (s.obey host c) := by
  cases c with
  | setEnabled enabled => exact sought_setEnabled host hs.unburdened enabled
  | flushAndUnbind =>
    have h : Tacit s { s with loop.flushing := true } := (Tacit.refl s).of_loop rfl rfl rfl
    exact h.sought (sought_setEnabled (s := { s with loop.flushing := true }) host
      hs.unburdened true)
  | connected token transport => exact .tacit (tacit_connected host s token transport)
  | sessionDied token cause => exact .tacit (tacit_sessionDied host s token cause)
  | deathCheck failed =>
    cases failed with
    | none => exact .tacit (tacit_note s _)
    | some token => exact .tacit (tacit_sessionDied host s token _)
  | retryElapsed generation => exact sought_retryElapsed host hs generation
  | signal id x =>
    simp only [obey, signalled]
    split
    · exact .tacit (tacit_note s _)
    · exact .tacit (tacit_note s _)
    · exact sought_availabilityChanged host hs x _
  | setChangeListener l => exact .tacit ((Tacit.refl s).of_loop rfl rfl rfl)
  | barrier ticket => exact .tacit ⟨Nat.le_refl _, .refl _, .inl ⟨rfl, rfl, rfl⟩⟩
  | shutdown => exact absurd rfl hc

/-- To publish the status uses up no token. -/
theorem nextToken_publish (s : System W) : s.publish.nextToken = s.nextToken := by
  unfold publish
  split
  · rfl
  · rfl

/-- The status is published in the end, if it is at all. -/
theorem published_publish (s : System W) :
    s.journal.GrowsBy (fun f => f.isBind = false ∧ ∀ x, f = .published x → x = s.publish.status)
      s.publish.journal := by
  unfold publish
  split
  · exact .refl _
  · refine .cons ⟨rfl, fun x hx => ?_⟩
    cases hx
    rfl

/-- A step tries at most one bind, and publishes at most the status that it ends with. -/
theorem sought_step (host : Host W) (hs : Tidy s) (a : Step W) : ∃ u, Sought s u ∧
    (s.step host a).loop = u.loop ∧ (s.step host a).nextToken = u.nextToken ∧
    u.journal.GrowsBy (fun f => f.isBind = false ∧
      ∀ x, f = .published x → x = (s.step host a).status) (s.step host a).journal := by
  have h := turned_step host s a
  generalize s.command? a = c?, s.step host a = t at h ⊢
  cases h with
  | offstage h => exact ⟨t, .tacit (.of_offstage h), rfl, rfl, .refl _⟩
  | started => exact ⟨_, .tacit (tacit_note s .loopStarted), rfl, rfl, .refl _⟩
  | @processed c rest _ _ hc =>
    have hr : Tacit s ({ s with inbox := rest }.note (.received c)) :=
      ⟨Nat.le_refl _, .cons rfl, .inl ⟨rfl, rfl, rfl⟩⟩
    have hobey := sought_obey (s := { s with inbox := rest }.note (.received c)) host { hs with } hc
    simp only [process, if_neg hc]
    exact ⟨_, hr.sought hobey, loop_publish _, nextToken_publish _, published_publish _⟩
  | @shutDown rest =>
    have hr : Tacit s ({ s with inbox := rest }.note (.received .shutdown)) :=
      ⟨Nat.le_refl _, .cons rfl, .inl ⟨rfl, rfl, rfl⟩⟩
    have h := hr.trans (tacit_teardown host _)
    unfold shutDown
    generalize ({ s with inbox := rest }.note (.received .shutdown)).teardown host = u at h ⊢
    refine ⟨u, .tacit h, loop_publish u, nextToken_publish u, ?_⟩
    exact (published_publish u).trans (.cons ⟨rfl, fun _ hx => Fact.noConfusion hx⟩)
  | closed =>
    have h := (tacit_note s .allHandlesDropped).trans (tacit_teardown host _)
    unfold close
    generalize (s.note .allHandlesDropped).teardown host = u at h ⊢
    exact ⟨u, .tacit h, loop_publish u, nextToken_publish u, published_publish u⟩

end System

/-! ## What the journal says of tokens -/

/-- How the attempt and its binding agree with what the binder was asked. -/
structure Requested (s : System W) : Prop where
  /-- Each request bears a token that was given out. -/
  issued : ∀ r ∈ s.journal, ∀ q a, r.fact = .call (.bind q a) → q.token.number < s.nextToken
  /-- The attempt was not turned down. -/
  turnedDown : ∀ r ∈ s.journal, ∀ q e, r.fact = .call (.bind q (.error e)) →
    s.loop.attempt ≠ some q.token
  attempt : s.loop.attempt.isSome = !s.loop.state.isIdle
  binding : s.loop.binding.isSome = !s.loop.state.isIdle

namespace Requested

/-- What was written down of no bind leaves it so. -/
theorem of_growsBy (hs : Requested s) (hj : s.journal.GrowsBy (·.isBind = false) t.journal)
    (hle : s.nextToken ≤ t.nextToken) (hkeeps : s.loop.Keeps t.loop) : Requested t := by
  obtain ⟨new, hj, hnew⟩ := hj
  have old : ∀ r ∈ t.journal, ∀ q a, r.fact = .call (.bind q a) → r ∈ s.journal := by
    intro r hr q a hq
    rw [hj, List.mem_append] at hr
    refine hr.resolve_left fun hr => ?_
    have h := hnew r hr
    rw [hq] at h
    cases h
  constructor
  · intro r hr q a hq
    exact Nat.lt_of_lt_of_le (hs.issued r (old r hr q a hq) q a hq) hle
  · intro r hr q e hq
    rcases hkeeps with ⟨ha, -⟩ | ⟨ha, -⟩
    · rw [ha]
      exact hs.turnedDown r (old r hr q _ hq) q e hq
    · simp [ha]
  · rcases hkeeps with ⟨ha, -, hi⟩ | ⟨ha, -, hi⟩
    · rw [ha, hi]
      exact hs.attempt
    · rw [ha, hi]
      rfl
  · rcases hkeeps with ⟨-, hb, hi⟩ | ⟨-, hb, hi⟩
    · rw [hb, hi]
      exact hs.binding
    · rw [hb, hi]
      rfl

theorem of_tacit (hs : Requested s) (h : Tacit s t) : Requested t :=
  hs.of_growsBy (h.journal.imp fun _ => Fact.isBind_eq_false_of_isTacit) h.nextToken h.keeps

/-- A request in the journal is the one that was just made, or an older one. -/
theorem eq_request_or_mem {a a' : Except Error BindHandle} (h : Offstage (s.asked a) t)
    {r : Record} (hr : r ∈ t.journal) {q : BindRequest} (hq : r.fact = .call (.bind q a')) :
    q = s.request ∧ a' = a ∨ r ∈ s.journal := by
  obtain ⟨new, hj, hnew⟩ := h.journal
  rw [hj, List.mem_append] at hr
  rcases hr with hr | hr
  · have h := hnew r hr
    rw [hq] at h
    cases h
  rcases List.mem_cons.1 hr with rfl | hr
  · cases hq
    exact .inl ⟨rfl, rfl⟩
  rcases List.mem_cons.1 hr with rfl | hr
  · cases hq
  · exact .inr hr

/-- The token of the request that was just made was given out, as those of all others were. -/
theorem issued_of_asked (hs : Requested s) {a : Except Error BindHandle}
    (h : Offstage (s.asked a) t) {n : Nat} (hlt : s.nextToken < n) :
    ∀ r ∈ t.journal, ∀ q a', r.fact = .call (.bind q a') → q.token.number < n := by
  intro r hr q a' hq
  rcases eq_request_or_mem h hr hq with ⟨rfl, -⟩ | hr
  · exact hlt
  · exact Nat.lt_trans (hs.issued r hr q a' hq) hlt

/-- The binder was asked for a bind by an idle loop. -/
theorem of_tried (hs : Requested s) (hi : s.loop.state.isIdle) (h : Tried s t)
    (hlt : s.nextToken < t.nextToken) : Requested t := by
  have hattempt : s.loop.attempt = none := by simpa [hi] using hs.attempt
  have hbinding : s.loop.binding = none := by simpa [hi] using hs.binding
  cases h with
  | @accepted b v hv =>
    refine ⟨hs.issued_of_asked hv hlt, fun r hr q e hq => ?_, rfl, rfl⟩
    rcases eq_request_or_mem hv hr hq with ⟨-, h⟩ | hr
    · cases h
    · intro h
      have hissued := hs.issued r hr q _ hq
      rw [← Option.some.inj h] at hissued
      exact Nat.lt_irrefl _ hissued
  | @failed e v hv =>
    have hnext : s.nextToken < v.nextToken := by
      rwa [System.nextToken_scheduleRetry] at hlt
    refine of_tacit (s := { v with loop.state := .unbound }) ?_ (System.tacit_scheduleRetry _)
    have hva : v.loop.attempt = none := by
      rw [hv.loop]
      exact hattempt
    have hvb : v.loop.binding = none := by
      rw [hv.loop]
      exact hbinding
    refine ⟨hs.issued_of_asked hv hnext, fun r hr q e' hq => ?_, ?_, ?_⟩
    · simp [hva]
    · simp [hva, ConnectionState.isIdle]
    · simp [hvb, ConnectionState.isIdle]

/-- A command that asks for one bind at most keeps what the journal says of tokens. -/
theorem of_sought (hs : Requested s) (h : Sought s t) : Requested t := by
  cases h with
  | tacit h => exact hs.of_tacit h
  | tried h hi ht hlt => exact (hs.of_tacit h).of_tried hi ht hlt

end Requested

/-- In each reachable state, the journal can be trusted on tokens. -/
theorem Reachable.requested (hs : Reachable host s) : Requested s := by
  induction hs with
  | spawn x c w =>
    have hempty : Requested ({ extension := x, config := c, world := w } : System W) :=
      ⟨fun _ hr => absurd hr List.not_mem_nil, fun _ hr => absurd hr List.not_mem_nil, rfl, rfl⟩
    exact hempty.of_tacit (System.tacit_note _ _)
  | step hs a ih =>
    obtain ⟨u, hu, hl, hn, hj⟩ := System.sought_step host hs.poised.toTidy a
    refine (ih.of_sought hu).of_growsBy (hj.imp fun _ hf => hf.1) (Nat.le_of_eq hn.symm) (.inl ?_)
    rw [hl]
    exact ⟨rfl, rfl, rfl⟩

end Supervision
