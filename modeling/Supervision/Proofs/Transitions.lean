import Mathlib.Data.List.Chain
import Supervision.Proofs.Suspension

/-!
# The state machine

The published state moves along few edges (`ConnectionState.Edge`): from no connection to an attempt
or to giving up, from an attempt to a connection, from anything back to no connection, and from
giving up to an attempt. `Passage` says for each edge what makes a step move along it.

In the course of one command the loop may pass through several states: a session is joined,
refuses an event and is let go of, or a signal ends giving up and the bind that follows fails. But a
command tries to bind at most once and in the end, so all that it may come to is what `bind` makes
of the state (`Bound`). What `bind` finds is the state of before, unless a signal of ours set the
counter back; and then it does not give up (`System.passes_step`).
-/

namespace Supervision

variable {W : Type} {host : Host W} {s t u : System W} {a : Step W} {c : Command}

/-! ## What becomes of the state -/

/-- What `bind` may make of the state: it leaves it, ends a connection for a flush, and with an idle
loop makes an attempt or gives up. -/
inductive Bound (s : System W) : ConnectionState → Prop
  | kept : Bound s s.loop.state
  | lost : Bound s .unbound
  | attempted (hi : s.loop.state.isIdle = true) (hmax : s.loop.retryCount < s.config.maxRetries) :
      Bound s .connecting
  | resigned (hi : s.loop.state.isIdle = true) (hmax : s.config.maxRetries ≤ s.loop.retryCount) :
      Bound s .givingUp

namespace System

theorem state_giveUp (host : Host W) (s : System W) : (s.giveUp host).loop.state = .givingUp := by
  obtain ⟨watching, h⟩ := exists_loop_giveUp host s
  rw [h]

theorem bound_attemptBind (host : Host W) (hi : s.loop.state.isIdle = true)
    (hb : s.loop.binding = none) : Bound s (s.attemptBind host).loop.state := by
  by_cases hmax : s.config.maxRetries ≤ s.loop.retryCount
  · rw [attemptBind, if_pos hmax, state_giveUp]
    exact .resigned hi hmax
  have hlt := UInt32.not_le.1 hmax
  obtain ⟨u, r, hu, heq⟩ := exists_attemptBind_eq host hlt
  rw [heq]
  cases r with
  | error e => exact .lost
  | ok x =>
    have h := tried_tryBind host (hu.tacit.binding_eq_none hb)
    generalize u.tryBind host = t at h ⊢
    cases h with
    | accepted => exact .attempted hi hlt
    | @failed e v =>
      obtain ⟨g, generation, hl⟩ := exists_loop_scheduleRetry { v with loop.state := .unbound }
      simp only [hl]
      exact .lost

theorem bound_bind (host : Host W) (hb : s.loop.state.isIdle → s.loop.binding = none) :
    Bound s (s.bind host).loop.state := by
  unfold bind
  split <;> rename_i hst
  · split
    · rw [loop_finishFlush]
      exact .lost
    · exact .kept
  · exact .kept
  · exact bound_attemptBind host (by rw [hst]; rfl) (hb (by rw [hst]; rfl))
  · exact bound_attemptBind host (by rw [hst]; rfl) (hb (by rw [hst]; rfl))

/-- When the attempt or session at hand dies, the loop is unbound. -/
theorem state_sessionDied_of_current (host : Host W) {token : BindToken} (cause : DeathCause)
    (ha : s.loop.attempt = some token)
    (hst : s.loop.state = .connecting ∨ s.loop.state = .connected) :
    (s.sessionDied host token cause).loop.state = .unbound := by
  have hreleased : ((s.note (.sessionDied token cause)).release host).loop.state = .unbound := by
    rw [loop_release]
  rw [sessionDied, if_pos ⟨ha, hst⟩]
  simp only
  generalize (s.note (.sessionDied token cause)).release host = t at hreleased ⊢
  split
  · obtain ⟨u, hu, h | h⟩ := exists_checkAvailable_eq host t <;> simp only [h]
    · obtain ⟨g, generation, hl⟩ := exists_loop_scheduleRetry u
      rw [hl, hu.loop]
      exact hreleased
    · obtain ⟨watching, hl⟩ := exists_loop_watch host u
      rw [hl, hu.loop]
      exact hreleased
  · exact hreleased

theorem state_sessionDied (host : Host W) (s : System W) (token : BindToken) (cause : DeathCause) :
    (s.sessionDied host token cause).loop.state = s.loop.state ∨
      (s.sessionDied host token cause).loop.state = .unbound := by
  by_cases h : s.loop.attempt = some token ∧
      (s.loop.state = .connecting ∨ s.loop.state = .connected)
  · exact .inr (state_sessionDied_of_current host cause h.1 h.2)
  · rw [sessionDied, if_neg h]
    exact .inl rfl

/-- The bind in flight led to a session that callers can use, or to none. -/
theorem state_connected (host : Host W) {token : BindToken} (transport : TransportId)
    (ha : s.loop.attempt = some token) (hst : s.loop.state = .connecting) :
    (s.connected host token transport).loop.state = .unbound ∨
      (s.connected host token transport).loop.state = .connected ∧
        (s.connected host token transport).slot = some ⟨token, transport⟩ := by
  obtain ⟨v, u, w, o, hv, hr, -, hwl, hwslot, -, heq⟩ :=
    exists_replay_of_connected host transport ha hst
  have hul : u.loop = (s.joined ⟨token, transport⟩).loop := (aside_of_replay hr).loop.trans hv.loop
  have hwstate : w.loop.state = .connected := by rw [hwl, hul]; rfl
  have hwattempt : w.loop.attempt = some token := by rw [hwl, hul]; exact ha
  rw [heq]
  generalize hx : (if o.failed then w.sessionDied host token .dispatchFailed else w) = x
  unfold endFlush
  split
  · rw [loop_finishFlush]
    exact .inl rfl
  cases ho : o.failed with
  | true =>
    rw [← hx, ho, if_pos rfl]
    exact .inl (state_sessionDied_of_current host _ hwattempt (.inr hwstate))
  | false =>
    rw [← hx, ho, if_neg Bool.false_ne_true]
    exact .inr ⟨hwstate, hwslot ho⟩

/-- A signal of ours makes the loop try to bind with a counter below its limit, so that it does not
give up. -/
theorem state_availabilityChanged (host : Host W) (hs : Tidy s) (hmax : 0 < s.config.maxRetries)
    (x : Signal) (changed : Bool) :
    (s.availabilityChanged host x changed).loop.state = s.loop.state ∨
    (s.availabilityChanged host x changed).loop.state = .unbound ∨
    s.loop.state.isIdle = true ∧
      (s.availabilityChanged host x changed).loop.state = .connecting := by
  obtain ⟨t, u, ht, rfl, heq⟩ := exists_availabilityChanged_eq host s x changed
  have htidy : Tidy (t.unwatch host).allowBinds := (hs.of_loop_eq ht.loop).of_allowBinds
  have hconfig : (t.unwatch host).config = s.config :=
    (books_unwatch host t).config_eq.trans ht.config
  have hl := loop_allowBinds (t.unwatch host)
  rw [loop_unwatch, ht.loop, hconfig] at hl
  have hconfig : (t.unwatch host).allowBinds.config = s.config :=
    (books_allowBinds _).config_eq.trans hconfig
  generalize (t.unwatch host).allowBinds = u at heq htidy hl hconfig
  -- a loop that gave up is unbound by now, and the counter is below its limit
  have hkept : u.loop.state = s.loop.state ∨ u.loop.state = .unbound := by
    rw [hl]
    by_cases hst : s.loop.state = .givingUp
    · exact .inr (if_pos hst)
    · exact .inl (if_neg hst)
  have hcount : u.loop.retryCount < u.config.maxRetries := by
    rw [hl, hconfig]
    simp only
    split
    · exact hmax
    · exact UInt32.not_le.1 ‹_›
  rw [heq]
  split
  · have h : Bound (u.note .rebinding) ((u.note .rebinding).bind host).loop.state :=
      bound_bind host htidy.unburdened
    generalize ((u.note .rebinding).bind host).loop.state = y at h ⊢
    cases h with
    | kept => exact hkept.imp id .inl
    | lost => exact .inr (.inl rfl)
    | attempted hi =>
      refine .inr (.inr ⟨?_, rfl⟩)
      rw [loop_note, hl] at hi
      by_cases hst : s.loop.state = .givingUp
      · rw [hst]
        rfl
      · simpa only [if_neg hst] using hi
    | resigned _ hlimit => exact absurd hcount (UInt32.not_lt.2 hlimit)
  · exact hkept.imp id .inl

end System

/-! ## Edges -/

/-- The command asks for a connection: a caller wants one, or the retry that is scheduled is due. -/
inductive Command.Seeks (l : Loop) : Command → Prop
  | enabled : Seeks l (.setEnabled true)
  | flush : Seeks l .flushAndUnbind
  | due {generation : Nat} (h : l.retry = some generation) : Seeks l (.retryElapsed generation)

/-- The command is a signal of ours that the open subscription received. -/
inductive Command.Updates (l : Loop) (package : PackageName) : Command → Prop
  | signal {id : Subscription} {x : Signal} (hw : l.watching = some id)
      (hx : x.concerns package = true) : Updates l package (.signal id x)

/-- The edges of the state machine. -/
inductive ConnectionState.Edge : ConnectionState → ConnectionState → Prop
  | attempted : Edge .unbound .connecting
  | resigned : Edge .unbound .givingUp
  | joined : Edge .connecting .connected
  | lost {x : ConnectionState} (h : x ≠ .unbound) : Edge x .unbound
  | resumed : Edge .givingUp .connecting

/-- The edges, with what makes a step move along them. -/
inductive Passage (host : Host W) (s : System W) (a : Step W) :
    ConnectionState → ConnectionState → Prop
  | attempted {c : Command} (hc : s.command? a = some c)
      (h : c.Seeks s.loop ∨ c.Updates s.loop s.extension.package) :
      Passage host s a .unbound .connecting
  | resigned {c : Command} (hc : s.command? a = some c) (h : c.Seeks s.loop) :
      Passage host s a .unbound .givingUp
  /-- The bind in flight led to a session that accepted the whole replay, while no flush was
  pending. -/
  | joined {token : BindToken} {transport : TransportId}
      (hc : s.command? a = some (.connected token transport)) (ha : s.loop.attempt = some token)
      (hf : s.loop.flushing = false)
      (hsent : (s.step host a).journal.sent =
        s.journal.sent ++ s.pending.script.map (⟨token, transport⟩, ·, true)) :
      Passage host s a .connecting .connected
  | lost {x : ConnectionState} (h : x ≠ .unbound) : Passage host s a x .unbound
  | resumed {c : Command} (hc : s.command? a = some c) (h : c.Updates s.loop s.extension.package) :
      Passage host s a .givingUp .connecting

theorem Passage.edge {x y : ConnectionState} (h : Passage host s a x y) : x.Edge y := by
  cases h with
  | attempted => exact .attempted
  | resigned => exact .resigned
  | joined => exact .joined
  | lost h => exact .lost h
  | resumed => exact .resumed

theorem ConnectionState.eq_of_isIdle {x : ConnectionState} (h : x.isIdle = true) :
    x = .unbound ∨ x = .givingUp := by
  cases x with
  | unbound => exact .inl rfl
  | givingUp => exact .inr rfl
  | _ => cases h

/-- The state stays as it is or moves along an edge. -/
def Passes (host : Host W) (s : System W) (a : Step W) (x y : ConnectionState) : Prop :=
  x = y ∨ Passage host s a x y

namespace Passes

variable {x y : ConnectionState}

theorem unbound (x : ConnectionState) : Passes host s a x .unbound := by
  by_cases h : x = .unbound
  · exact .inl h
  · exact .inr (.lost h)

/-- The state is what it was, or there is no connection. -/
theorem of_eq_or_unbound (h : y = x ∨ y = .unbound) : Passes host s a x y := by
  rcases h with rfl | rfl
  · exact .inl rfl
  · exact .unbound x

/-- What asks for a connection comes to what `bind` makes of the state. -/
theorem of_seeks (h : Bound u y) (hst : u.loop.state = s.loop.state)
    (hlimit : s.loop.state = .givingUp → u.config.maxRetries ≤ u.loop.retryCount)
    (hc : s.command? a = some c) (hseeks : c.Seeks s.loop) : Passes host s a s.loop.state y := by
  cases h with
  | kept => exact .inl hst.symm
  | lost => exact .unbound _
  | attempted hi hmax =>
    rcases ConnectionState.eq_of_isIdle (hst ▸ hi) with hx | hx
    · exact hx ▸ .inr (.attempted hc (.inl hseeks))
    · exact absurd hmax (UInt32.not_lt.2 (hlimit hx))
  | resigned hi =>
    rcases ConnectionState.eq_of_isIdle (hst ▸ hi) with hx | hx
    · exact hx ▸ .inr (.resigned hc hseeks)
    · exact .inl hx

/-- A signal of ours makes an idle loop try to bind. -/
theorem of_updates (hi : s.loop.state.isIdle = true) (hc : s.command? a = some c)
    (hupdates : c.Updates s.loop s.extension.package) :
    Passes host s a s.loop.state .connecting := by
  rcases ConnectionState.eq_of_isIdle hi with hx | hx
  · exact hx ▸ .inr (.attempted hc (.inr hupdates))
  · exact hx ▸ .inr (.resumed hc hupdates)

end Passes

namespace System

/-- What asks for a connection makes the loop want one, and then try to bind. -/
theorem exists_obey_eq_bind (host : Host W)
    (hd : s.loop.retry.isSome = true → s.loop.desired = true) (hseeks : c.Seeks s.loop) :
    ∃ u : System W, s.obey host c = u.bind host ∧
      u.loop.state = s.loop.state ∧ u.loop.retryCount = s.loop.retryCount ∧
      u.loop.binding = s.loop.binding ∧ u.config = s.config := by
  cases hseeks with
  | enabled => exact ⟨_, rfl, rfl, rfl, rfl, rfl⟩
  | flush => exact ⟨_, rfl, rfl, rfl, rfl, rfl⟩
  | due hr =>
    refine ⟨{ s with loop.retry := none }.note .retrying, ?_, rfl, rfl, rfl, rfl⟩
    rw [obey, retryElapsed, if_pos hr]
    exact if_pos (hd (by rw [hr]; rfl))

/-- A signal of ours is acted upon. -/
theorem exists_obey_eq_availabilityChanged (host : Host W)
    (h : c.Updates s.loop s.extension.package) : ∃ x changed,
      s.obey host c = s.availabilityChanged host x changed := by
  cases h with
  | @signal id x hw hx =>
    refine ⟨x, x.kind == .packageChanged, obey_of_relevant host ?_⟩
    rw [classify, if_neg (not_not_intro hw), if_pos hx]

/-- What neither asks for a connection nor brings news of one leaves the state, or ends in
`unbound`. -/
theorem state_obey (host : Host W) (hseeks : ¬c.Seeks s.loop)
    (hupdates : ¬c.Updates s.loop s.extension.package)
    (hconnected : ∀ token transport, c = .connected token transport →
      ¬(s.loop.attempt = some token ∧ s.loop.state = .connecting)) (hc : c ≠ .shutdown) :
    (s.obey host c).loop.state = s.loop.state ∨ (s.obey host c).loop.state = .unbound := by
  cases c with
  | setEnabled enabled =>
    cases enabled with
    | true => exact absurd .enabled hseeks
    | false =>
      have h := loop_disconnect host { s with loop.desired := false, loop.flushing := false }
      exact .inr (congrArg Loop.state h)
  | flushAndUnbind => exact absurd .flush hseeks
  | connected token transport =>
    rw [obey, connected, if_neg (hconnected token transport rfl)]
    exact .inl rfl
  | sessionDied token cause => exact state_sessionDied host s token cause
  | deathCheck failed =>
    cases failed with
    | none => exact .inl rfl
    | some token => exact state_sessionDied host s token _
  | retryElapsed generation =>
    rw [obey, retryElapsed, if_neg fun hr => hseeks (.due hr)]
    exact .inl rfl
  | signal id x =>
    simp only [obey, signalled]
    split <;> rename_i hx
    · exact .inl rfl
    · exact .inl rfl
    · obtain ⟨hw, hconcerns⟩ := eq_of_classify_eq_relevant hx
      exact absurd (.signal hw hconcerns) hupdates
  | setChangeListener l => exact .inl rfl
  | barrier ticket => exact .inl rfl
  | shutdown => exact absurd rfl hc

/-- A step that processes no command leaves the state, or stops the loop. -/
theorem state_of_no_command (host : Host W) (hc : s.command? a = none) :
    (s.step host a).loop.state = s.loop.state ∨ (s.step host a).loop.state = .unbound := by
  have h := turned_step host s a
  rw [hc] at h
  generalize s.step host a = t at h ⊢
  cases h with
  | offstage h => exact .inl (by rw [h.loop])
  | started => exact .inl rfl
  | closed => exact .inr (by rw [loop_close]; rfl)

theorem state_of_shutdown (host : Host W) (hc : s.command? a = some .shutdown) :
    (s.step host a).loop.state = .unbound := by
  have h := turned_step host s a
  rw [hc] at h
  generalize s.step host a = t at h ⊢
  cases h with
  | processed _ _ h => exact absurd rfl h
  | shutDown => rw [loop_shutDown]; rfl

/-- A command that asks for a connection. -/
theorem passes_of_seeks (hs : Reachable host s) (hc : s.command? a = some c)
    (hseeks : c.Seeks s.loop) : Passes host s a s.loop.state (s.step host a).loop.state := by
  obtain ⟨rest, hrun, -, heq⟩ := exists_step_eq host hc (by cases hseeks <;> nofun)
  have hopen : s.phase ≠ .stopped := by rw [hrun]; nofun
  have hd (hr : s.loop.retry.isSome = true) : s.loop.desired = true :=
    (hs.sensible hopen).sound.scheduled hr
  obtain ⟨u, hobey, hst, hcount, hb, hconfig⟩ :=
    exists_obey_eq_bind (s := { s with inbox := rest }.note (.received c)) host hd hseeks
  rw [heq, loop_publish, hobey]
  refine .of_seeks (bound_bind host ?_) hst (fun hg => ?_) hc hseeks
  · rw [hst, hb]
    exact hs.poised.unburdened
  · rw [hcount, hconfig]
    exact (hs.suspended hg).limit

/-- A signal of ours. -/
theorem passes_of_updates (hs : Reachable host s) (hc : s.command? a = some c)
    (hupdates : c.Updates s.loop s.extension.package) :
    Passes host s a s.loop.state (s.step host a).loop.state := by
  obtain ⟨rest, -, -, heq⟩ := exists_step_eq host hc (by cases hupdates; nofun)
  have htidy : Tidy ({ s with inbox := rest }.note (.received c)) := { hs.poised.toTidy with }
  obtain ⟨x, changed, hobey⟩ := exists_obey_eq_availabilityChanged
    (s := { s with inbox := rest }.note (.received c)) host hupdates
  have h := state_availabilityChanged host htidy hs.maxRetries_pos x changed
  rw [← hobey, ← loop_publish, ← heq] at h
  rcases h with h | h | ⟨hi, h⟩
  · exact .of_eq_or_unbound (.inl h)
  · exact .of_eq_or_unbound (.inr h)
  · have hidle : s.loop.state.isIdle = true := hi
    rw [h]
    exact .of_updates hidle hc hupdates

/-- The command that reports a connection for the bind in flight. -/
theorem passes_connected (host : Host W) {token : BindToken} {transport : TransportId}
    (hc : s.command? a = some (.connected token transport)) (ha : s.loop.attempt = some token)
    (hst : s.loop.state = .connecting) :
    Passes host s a s.loop.state (s.step host a).loop.state := by
  obtain ⟨failed, hintroduced⟩ := introduced_step host hc ha hst
  obtain ⟨ds, hsent, hcarried⟩ := hintroduced.sent
  have h : (s.step host a).loop.state = .unbound ∨ (s.step host a).loop.state = .connected ∧
      (s.step host a).slot = some ⟨token, transport⟩ := by
    obtain ⟨rest, -, -, heq⟩ := exists_step_eq host hc nofun
    rw [heq, loop_publish, (still_publish _).slot]
    exact state_connected (s := { s with inbox := rest }.note
      (.received (.connected token transport))) host transport ha hst
  rw [hst]
  rcases h with h | ⟨h, hslot⟩ <;> rw [h]
  · exact .unbound _
  -- the session is in the slot, so it refused no event and was not wanted for a flush only
  have hkept : (failed || s.loop.flushing) = false := by
    rw [hintroduced.slot] at hslot
    refine Bool.eq_false_iff.2 fun hlost => ?_
    rw [if_pos hlost] at hslot
    cases hslot
  obtain ⟨hf, hflushing⟩ := Bool.or_eq_false_iff.1 hkept
  rw [hf] at hcarried
  cases hcarried
  refine .inr (.joined hc ha hflushing ?_)
  rw [hsent, List.map_map]
  rfl

theorem passes_step (hs : Reachable host s) (a : Step W) :
    Passes host s a s.loop.state (s.step host a).loop.state := by
  cases hc : s.command? a with
  | none => exact .of_eq_or_unbound (state_of_no_command host hc)
  | some c =>
    by_cases hshutdown : c = .shutdown
    · exact .of_eq_or_unbound (.inr (state_of_shutdown host (hshutdown ▸ hc)))
    by_cases hseeks : c.Seeks s.loop
    · exact passes_of_seeks hs hc hseeks
    by_cases hupdates : c.Updates s.loop s.extension.package
    · exact passes_of_updates hs hc hupdates
    by_cases hconnected : ∃ token transport, c = .connected token transport ∧
        s.loop.attempt = some token ∧ s.loop.state = .connecting
    · obtain ⟨token, transport, rfl, ha, hst⟩ := hconnected
      exact passes_connected host hc ha hst
    obtain ⟨rest, -, -, heq⟩ := exists_step_eq host hc hshutdown
    have h := state_obey (s := { s with inbox := rest }.note (.received c)) host hseeks hupdates
      (fun token transport h hattempt => hconnected ⟨token, transport, h, hattempt⟩) hshutdown
    rw [← loop_publish, ← heq] at h
    exact .of_eq_or_unbound h

end System

/-! ## Runs -/

/-- The states that are published in a run: the first, and that after each step. -/
def System.visited (host : Host W) (s : System W) : List (Step W) → List ConnectionState
  | [] => [s.status.state]
  | a :: as => s.status.state :: (s.step host a).visited host as

theorem passes_status (hs : Reachable host s) (a : Step W) :
    Passes host s a s.status.state (s.step host a).status.state := by
  rw [hs.status_eq, (hs.step a).status_eq]
  exact System.passes_step hs a

/-- In each run the published state moves along the edges. -/
theorem System.isChain_visited (hs : Reachable host s) (as : List (Step W)) :
    (s.visited host as).IsChain fun x y => x = y ∨ x.Edge y := by
  induction as generalizing s with
  | nil => exact .singleton _
  | cons a as ih =>
    have hfirst : s.status.state = (s.step host a).status.state ∨
        s.status.state.Edge (s.step host a).status.state := (passes_status hs a).imp id Passage.edge
    have hrest := ih (hs.step a)
    cases as with
    | nil => exact .cons_cons hfirst hrest
    | cons b bs => exact .cons_cons hfirst hrest

/-- The published state moves along the edges of the state machine only, each for its reasons. So
the state after a command shows a connection only if the one before showed it, or an attempt to make
it; from neither of the two the loop gives up at once; and the states of a run are linked by the
edges. -/
theorem state_moves_along_edges (hs : Reachable host s) :
    (∀ a, s.status.state = (s.step host a).status.state ∨
      Passage host s a s.status.state (s.step host a).status.state) ∧
    (∀ a, (s.step host a).status.state = .connected →
      s.status.state = .connecting ∨ s.status.state = .connected) ∧
    (∀ a, s.status.state = .connecting ∨ s.status.state = .connected →
      (s.step host a).status.state ≠ .givingUp) ∧
    ∀ as, (s.visited host as).IsChain fun x y => x = y ∨ x.Edge y := by
  refine ⟨passes_status hs, fun a ht => ?_, fun a hbefore ht => ?_, System.isChain_visited hs⟩
  · have h := passes_status hs a
    rw [ht] at h
    rcases h with h | h
    · exact .inr h
    · generalize s.status.state = x at h ⊢
      cases h
      exact .inl rfl
  · have h := passes_status hs a
    rw [ht] at h
    generalize s.status.state = x at h hbefore
    rcases h with rfl | h
    · rcases hbefore with h | h <;> cases h
    · cases h
      rcases hbefore with h | h <;> cases h

theorem resigned_supervisor_connects :
    Scenario.resigned.visited Scenario.host (Scenario.updated ++
        [.turn, .act (.deed (.report (.connected ⟨2⟩ ⟨0⟩))), .turn]) =
      [.givingUp, .givingUp, .givingUp, .givingUp, .connecting, .connecting, .connected] ∧
    (Scenario.resigned.visited Scenario.host (Scenario.updated ++
        [.turn, .act (.deed (.report (.connected ⟨2⟩ ⟨0⟩))), .turn])).IsChain
      fun x y => x = y ∨ x.Edge y := by
  obtain ⟨-, -, -, hruns⟩ := state_moves_along_edges Scenario.reachable_resigned
  exact ⟨rfl, hruns _⟩

end Supervision
