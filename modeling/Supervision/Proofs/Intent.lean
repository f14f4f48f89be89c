import Supervision.Proofs.Attempts

/-!
# What the loop does is wanted

Whether a connection is wanted is one field of the loop, and the state, the scheduled retry, the
pending flush and the retry counter have to fit it: without a wish for a connection there is
none of them. `Status.Sound` says so of what is published, and `Loop.Sensible` of the loop; it
holds between the steps of every run until the loop stops (`Reachable.sensible`).

The fields are changed one at a time, and in the middle of a command they need not fit: a flush
is noted before the loop looks whether it is connected, and a retry is used up before the bind
that it was for is tried. But all that `bind` needs to know is that a connection is wanted and
that the counter stands at zero while there is one, and what it leaves is sensible again. When a
session dies, or a flush ends, what is left is sensible whatever was before.
-/

namespace Supervision

variable {W : Type} {host : Host W} {s t : System W} {max : UInt32}

/-- How the fields of a status fit together, for a limit of the retry counter. -/
structure Status.Sound (max : UInt32) (x : Status) : Prop where
  wanted : x.state ≠ .unbound → x.desired = true
  scheduled : x.retryScheduled = true → x.desired = true
  fresh : x.desired = false → x.retryCount = 0
  connected : x.state = .connected → x.retryCount = 0
  givingUp : x.state = .givingUp → x.retryCount = max

/-- The status of the loop is sound, and a flush is only pending while a connection is wanted. -/
structure Loop.Sensible (max : UInt32) (l : Loop) : Prop where
  sound : l.status.Sound max
  flushing : l.flushing = true → l.desired = true

namespace Loop.Sensible

variable {l : Loop}

/-- While a connection is wanted only the counter has to fit the state. -/
theorem of_desired (hd : l.desired = true) (hc : l.state = .connected → l.retryCount = 0)
    (hg : l.state = .givingUp → l.retryCount = max) : l.Sensible max where
  sound := {
    wanted := fun _ => hd
    scheduled := fun _ => hd
    fresh := fun h => by cases hd.symm.trans h
    connected := hc
    givingUp := hg }
  flushing _ := hd

theorem of_unbound (hd : l.desired = true) (hst : l.state = .unbound) : l.Sensible max :=
  of_desired hd (fun h => by cases hst.symm.trans h) fun h => by cases hst.symm.trans h

/-- Without a wish for a connection nothing is left of one. -/
theorem of_undesired (hst : l.state = .unbound) (hr : l.retry = none) (hf : l.flushing = false)
    (hn : l.retryCount = 0) : l.Sensible max where
  sound := {
    wanted := fun h => absurd hst h
    scheduled := fun h => by simp [Loop.status, hr] at h
    fresh := fun _ => hn
    connected := fun _ => hn
    givingUp := fun h => by cases hst.symm.trans h }
  flushing h := by cases hf.symm.trans h

theorem desired_of_attempt (h : l.Sensible max)
    (hst : l.state = .connecting ∨ l.state = .connected) : l.desired = true := by
  refine h.sound.wanted fun hu => ?_
  rcases hst with hst | hst <;> cases hu.symm.trans hst

theorem desired_of_retry {g : Nat} (h : l.Sensible max) (hr : l.retry = some g) :
    l.desired = true :=
  h.sound.scheduled (by simp [Loop.status, hr])

end Loop.Sensible

/-! ## Commands -/

namespace System

theorem sensible_finishFlush (host : Host W) (s : System W) :
    (s.finishFlush host).loop.Sensible max := by
  rw [loop_finishFlush]
  exact .of_undesired rfl rfl rfl rfl

theorem sensible_endFlush (host : Host W) (hs : s.loop.flushing = false → s.loop.Sensible max) :
    (s.endFlush host).loop.Sensible max := by
  unfold endFlush
  split
  · exact sensible_finishFlush host s
  · exact hs (Bool.eq_false_iff.2 ‹_›)

theorem sensible_giveUp (host : Host W) (hd : s.loop.desired = true)
    (hcount : s.loop.retryCount = max) : (s.giveUp host).loop.Sensible max := by
  obtain ⟨watching, h⟩ := exists_loop_giveUp host s
  rw [h]
  exact .of_desired hd (fun hst => by cases hst) fun _ => hcount

theorem sensible_tryBind (host : Host W) (hd : s.loop.desired = true)
    (hb : s.loop.binding = none) : (s.tryBind host).loop.Sensible max := by
  have h := tried_tryBind host hb
  generalize s.tryBind host = t at h ⊢
  cases h with
  | @accepted b u hu =>
    refine .of_desired ?_ nofun nofun
    simp only [hu.loop]
    exact hd
  | @failed e u hu =>
    obtain ⟨g, generation, h⟩ := exists_loop_scheduleRetry { u with loop.state := .unbound }
    rw [h]
    refine .of_unbound ?_ rfl
    simp only [hu.loop]
    exact hd

theorem sensible_attemptBind (host : Host W) (hd : s.loop.desired = true)
    (hb : s.loop.binding = none) (hmax : s.loop.retryCount ≤ s.config.maxRetries) :
    (s.attemptBind host).loop.Sensible s.config.maxRetries := by
  unfold attemptBind
  split
  · exact sensible_giveUp host hd (UInt32.le_antisymm hmax ‹_›)
  · obtain ⟨u, hu, h | h⟩ := exists_checkAvailable_eq host s <;> simp only [h]
    · exact sensible_tryBind host (hu.loop ▸ hd) (hu.loop ▸ hb)
    · obtain ⟨watching, hw⟩ := exists_loop_watch host u
      refine .of_unbound ?_ rfl
      simp only [hw, hu.loop]
      exact hd

/-- What is left of `bind` is sensible, if a connection is wanted and the counter stands at zero
while there is one. -/
theorem sensible_bind (host : Host W) (hd : s.loop.desired = true)
    (hb : s.loop.state.isIdle → s.loop.binding = none)
    (hmax : s.loop.retryCount ≤ s.config.maxRetries)
    (hc : s.loop.state = .connected → s.loop.retryCount = 0) :
    (s.bind host).loop.Sensible s.config.maxRetries := by
  unfold bind
  split <;> rename_i hst
  · split
    · exact sensible_finishFlush host _
    · exact .of_desired hd hc fun h => by cases hst.symm.trans h
  · rw [loop_note]
    exact .of_desired hd hc fun h => by cases hst.symm.trans h
  · exact sensible_attemptBind host hd (hb (by rw [hst]; rfl)) hmax
  · exact sensible_attemptBind host hd (hb (by rw [hst]; rfl)) hmax

theorem sensible_setEnabled (host : Host W) (hb : s.loop.state.isIdle → s.loop.binding = none)
    (hmax : s.loop.retryCount ≤ s.config.maxRetries)
    (hc : s.loop.state = .connected → s.loop.retryCount = 0) (enabled : Bool) :
    (s.setEnabled host enabled).loop.Sensible s.config.maxRetries := by
  unfold setEnabled
  split
  · exact sensible_bind (s := { s with loop.desired := true }) host rfl hb hmax hc
  · rw [loop_disconnect]
    exact .of_undesired rfl rfl rfl rfl

/-- What is left when the attempt or session at hand died. -/
theorem sensible_sessionDied_of_current (host : Host W) (hd : s.loop.desired = true)
    {token : BindToken} (cause : DeathCause) (ha : s.loop.attempt = some token)
    (hst : s.loop.state = .connecting ∨ s.loop.state = .connected) :
    (s.sessionDied host token cause).loop.Sensible max := by
  simp only [sessionDied, ha, hst, and_self, if_true]
  generalize hu : (s.note (.sessionDied token cause)).release host = u
  have hl := loop_release host (s.note (.sessionDied token cause))
  rw [hu] at hl
  have hdesired : u.loop.desired = true := by
    rw [hl]
    exact hd
  have hstate : u.loop.state = .unbound := by rw [hl]
  rw [if_pos hdesired]
  obtain ⟨v, hv, h | h⟩ := exists_checkAvailable_eq host u <;> simp only [h]
  · obtain ⟨g, generation, hr⟩ := exists_loop_scheduleRetry v
    rw [hr, hv.loop]
    exact .of_unbound hdesired hstate
  · obtain ⟨watching, hw⟩ := exists_loop_watch host v
    rw [hw, hv.loop]
    exact .of_unbound hdesired hstate

theorem sensible_sessionDied (host : Host W) (hs : s.loop.Sensible max) (token : BindToken)
    (cause : DeathCause) : (s.sessionDied host token cause).loop.Sensible max := by
  by_cases h : s.loop.attempt = some token ∧
      (s.loop.state = .connecting ∨ s.loop.state = .connected)
  · exact sensible_sessionDied_of_current host (hs.desired_of_attempt h.2) cause h.1 h.2
  · rw [sessionDied, if_neg h]
    exact hs

theorem sensible_connected (host : Host W) (hs : s.loop.Sensible max) (token : BindToken)
    (transport : TransportId) : (s.connected host token transport).loop.Sensible max := by
  by_cases h : s.loop.attempt = some token ∧ s.loop.state = .connecting
  · obtain ⟨dropped, failed, t, ht, heq⟩ := exists_connected_eq host transport h.1 h.2
    have ha : t.loop.attempt = some token := by
      rw [ht.loop]
      exact h.1
    have hst : t.loop.state = .connected := by
      rw [ht.loop]
      rfl
    have hd : t.loop.desired = true := by
      rw [ht.loop]
      exact hs.desired_of_attempt (.inl h.2)
    have hcount : t.loop.retryCount = 0 := by
      rw [ht.loop]
      rfl
    rw [heq]
    refine sensible_endFlush host fun _ => ?_
    cases failed with
    | true => exact sensible_sessionDied_of_current host hd _ ha (.inr hst)
    | false => exact .of_desired hd (fun _ => hcount) fun h => by cases hst.symm.trans h
  · rw [connected, if_neg h]
    exact hs

theorem sensible_retryElapsed (host : Host W) (hs : s.loop.Sensible s.config.maxRetries)
    (ht : Tidy s) (hmax : s.loop.retryCount ≤ s.config.maxRetries) (generation : Nat) :
    (s.retryElapsed host generation).loop.Sensible s.config.maxRetries := by
  by_cases hr : s.loop.retry = some generation
  · have hd := hs.desired_of_retry hr
    have h := sensible_bind (s := { s with loop.retry := none }.note .retrying) host hd
      ht.unburdened hmax hs.sound.connected
    rw [retryElapsed, if_pos hr]
    exact (if_pos hd).symm ▸ h
  · rw [retryElapsed, if_neg hr]
    exact hs

/-- To allow binds again leaves no state that would ask for another counter. -/
theorem sensible_allowBinds (hs : s.loop.Sensible max) : s.allowBinds.loop.Sensible max := by
  have hcount (h : s.loop.retryCount = 0) :
      (if s.config.maxRetries ≤ s.loop.retryCount then 0 else s.loop.retryCount) = 0 := by
    rw [h, ite_self]
  have hstate {st : ConnectionState}
      (h : (if s.loop.state = .givingUp then .unbound else s.loop.state) = st)
      (hst : st ≠ .unbound) : s.loop.state = st ∧ st ≠ .givingUp := by
    split at h
    · exact absurd h.symm hst
    · exact ⟨h, h ▸ ‹_›⟩
  rw [loop_allowBinds]
  refine ⟨⟨fun h => ?_, hs.sound.scheduled, fun h => hcount (hs.sound.fresh h), fun h => ?_,
    fun h => ?_⟩, hs.flushing⟩
  · refine hs.sound.wanted fun hu => h ?_
    have hst : s.loop.state = .unbound := hu
    simp [Loop.status, hst]
  · exact hcount (hs.sound.connected (hstate h nofun).1)
  · exact absurd rfl (hstate h nofun).2

theorem sensible_availabilityChanged (host : Host W) (hs : s.loop.Sensible s.config.maxRetries)
    (ht : Tidy s) (hmax : s.loop.retryCount ≤ s.config.maxRetries) (x : Signal) (changed : Bool) :
    (s.availabilityChanged host x changed).loop.Sensible s.config.maxRetries := by
  obtain ⟨t, u, h, rfl, heq⟩ := exists_availabilityChanged_eq host s x changed
  have hu : Tidy (t.unwatch host).allowBinds := (ht.of_loop_eq h.loop).of_allowBinds
  have hconfig : (t.unwatch host).allowBinds.config = s.config :=
    ((books_unwatch host t).trans (books_allowBinds _)).config_eq.trans h.config
  have hclosed : (t.unwatch host).loop.Sensible s.config.maxRetries := by
    rw [loop_unwatch, h.loop]
    exact ⟨{ hs.sound with }, hs.flushing⟩
  have hallowed := sensible_allowBinds hclosed
  rw [heq]
  split
  · have hcount : (t.unwatch host).allowBinds.loop.retryCount ≤ s.config.maxRetries := by
      rw [loop_allowBinds, loop_unwatch, h.loop]
      simp only
      split
      · exact UInt32.zero_le
      · exact hmax
    rw [← hconfig] at hcount ⊢
    exact sensible_bind (s := (t.unwatch host).allowBinds.note .rebinding) host ‹_› hu.unburdened
      hcount hallowed.sound.connected
  · exact hallowed

theorem sensible_obey (host : Host W) (hs : s.loop.Sensible s.config.maxRetries) (ht : Tidy s)
    (hmax : s.loop.retryCount ≤ s.config.maxRetries) {c : Command} (hc : c ≠ .shutdown) :
    (s.obey host c).loop.Sensible s.config.maxRetries := by
  cases c with
  | setEnabled enabled =>
    exact sensible_setEnabled host ht.unburdened hmax hs.sound.connected enabled
  | flushAndUnbind =>
    exact sensible_setEnabled (s := { s with loop.flushing := true }) host ht.unburdened hmax
      hs.sound.connected true
  | connected token transport => exact sensible_connected host hs token transport
  | sessionDied token cause => exact sensible_sessionDied host hs token cause
  | deathCheck failed =>
    cases failed with
    | none => exact hs
    | some token => exact sensible_sessionDied host hs token _
  | retryElapsed generation => exact sensible_retryElapsed host hs ht hmax generation
  | signal id x =>
    simp only [obey, signalled]
    split
    · exact hs
    · exact hs
    · exact sensible_availabilityChanged host hs ht hmax x _
  | setChangeListener l => exact { hs with }
  | barrier ticket => exact { hs with }
  | shutdown => exact absurd rfl hc

end System

/-! ## Runs -/

theorem System.config_step (hs : Tidy s) (a : Step W) : (s.step host a).config = s.config :=
  (System.books_step hs a).config_eq

/-- The loop never starts again. -/
theorem System.open_of_step {a : Step W} (h : (s.step host a).phase ≠ .stopped) :
    s.phase ≠ .stopped := by
  have ht := System.turned_step host s a
  generalize s.command? a = c?, s.step host a = t at ht h
  cases ht with
  | offstage ht => rwa [ht.phase] at h
  | started hs => simp [hs]
  | processed hs => simp [hs]
  | shutDown hs => simp [hs]
  | closed hs => simp [hs]

/-- Until the loop stops it is sensible. -/
theorem Reachable.sensible (hs : Reachable host s) (hopen : s.phase ≠ .stopped) :
    s.loop.Sensible s.config.maxRetries := by
  induction hs with
  | spawn => exact .of_undesired rfl rfl rfl rfl
  | @step s hs a ih =>
    have hsensible := ih (System.open_of_step hopen)
    have htidy := hs.poised.toTidy
    have hmax := hs.counted.retryCount_le
    rw [System.config_step htidy a]
    have h := System.turned_step host s a
    generalize s.command? a = c?, s.step host a = t at h hopen ⊢
    cases h with
    | offstage h =>
      rw [h.loop]
      exact hsensible
    | started => exact hsensible
    | @processed c rest _ _ hc =>
      have h := System.sensible_obey (s := { s with inbox := rest }.note (.received c)) host
        hsensible { htidy with } hmax hc
      simp only [System.process, if_neg hc, System.loop_publish]
      exact h
    | shutDown => exact absurd rfl hopen
    | closed => exact absurd rfl hopen

end Supervision
