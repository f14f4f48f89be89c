import Supervision.Proofs.Offstage

/-!
# What the loop does

Each part of what the loop does is described once, so that what is proved of whole commands need
not open it again. The parts that only change the loop are given by what the loop is afterwards
(`loop_release`, `loop_disconnect`, ...). Those that ask a collaborator are given by the ways in
which that can end, with the entry that is made in the books: `Watched` for a subscription to
availability signals, and `Tried` for a bind.
-/

namespace Supervision

variable {W : Type}

/-! ## The loop afterwards -/

namespace System

variable {host : Host W} {s : System W}

@[simp] theorem loop_note (s : System W) (n : Note) : (s.note n).loop = s.loop := rfl

@[simp] theorem loop_unbind (host : Host W) (s : System W) (b : BindHandle) :
    (s.unbind host b).loop = s.loop :=
  (unheard_consult host _ _).loop

@[simp] theorem loop_publish (s : System W) : s.publish.loop = s.loop := by
  unfold publish
  split <;> rfl

@[simp] theorem loop_cancelRetry (s : System W) :
    s.cancelRetry.loop = { s.loop with retry := none } := by
  unfold cancelRetry
  split
  · rename_i h
    rw [← h]
  · rfl

/-- Scheduling a retry changes nothing else, and leaves one scheduled. -/
theorem exists_loop_scheduleRetry (s : System W) : ∃ g generation,
    s.scheduleRetry.loop = { s.loop with retry := some g, generation } := by
  unfold scheduleRetry
  split
  · rename_i h
    obtain ⟨g, h⟩ := Option.isSome_iff_exists.1 h
    refine ⟨g, s.loop.generation, ?_⟩
    rw [← h, loop_note]
  · exact ⟨_, _, rfl⟩

@[simp] theorem loop_unwatch (host : Host W) (s : System W) :
    (s.unwatch host).loop = { s.loop with watching := none } := by
  unfold unwatch
  split
  · rename_i h
    rw [← h]
  · exact (unheard_consult host _ _).loop

/-- To release leaves an unbound loop without session, attempt and binding. -/
@[simp] theorem loop_release (host : Host W) (s : System W) : (s.release host).loop =
    { s.loop with session := none, attempt := none, binding := none, state := .unbound } := by
  simp only [release]
  split
  · rename_i h
    rw [← h]
    rfl
  · rw [loop_unbind]
    rfl

/-- To disconnect resets the counter and takes the retry back as well. -/
@[simp] theorem loop_disconnect (host : Host W) (s : System W) : (s.disconnect host).loop =
    { s.loop with
      retryCount := 0, retry := none, session := none, attempt := none, binding := none,
      state := .unbound } := by
  rw [disconnect, loop_release, loop_cancelRetry]
  rfl

@[simp] theorem loop_finishFlush (host : Host W) (s : System W) : (s.finishFlush host).loop =
    { s.loop with
      flushing := false, desired := false, retryCount := 0, retry := none, session := none,
      attempt := none, binding := none, state := .unbound } := by
  rw [finishFlush, loop_disconnect]

/-- An update sets a counter at its limit back, and a loop that gave up is unbound. -/
@[simp] theorem loop_allowBinds (s : System W) : s.allowBinds.loop =
    { s.loop with
      retryCount := if s.config.maxRetries ≤ s.loop.retryCount then 0 else s.loop.retryCount
      state := if s.loop.state = .givingUp then .unbound else s.loop.state } := by
  unfold allowBinds
  by_cases hmax : s.config.maxRetries ≤ s.loop.retryCount <;>
    by_cases hst : s.loop.state = .givingUp <;> simp [hmax, hst]

@[simp] theorem loop_teardown (host : Host W) (s : System W) : (s.teardown host).loop =
    { s.loop with
      desired := false, flushing := false, retry := none, watching := none, session := none,
      attempt := none, binding := none, state := .unbound } := by
  simp only [teardown, loop_release, loop_unwatch, loop_cancelRetry]
  rfl

end System

/-! ## Watching -/

/-- What comes of watching: `Watched s t` says that `s` became `t`. -/
inductive Watched (s : System W) : System W → Prop
  | already (hw : s.loop.watching.isSome) : Watched s (s.note .alreadyWatching)
  | opened {q : SubscriptionRequest} {t : System W} (hw : s.loop.watching = none)
      (h : Offstage (s.record (.call (.subscribe q (.ok ())))) t) :
      Watched s { t with loop.watching := some q.id }
  | refused {q : SubscriptionRequest} {e : Error} {t : System W} (hw : s.loop.watching = none)
      (h : Offstage (s.record (.call (.subscribe q (.error e)))) t) : Watched s t

namespace System

variable {host : Host W} {s : System W}

/-- To watch opens a subscription if none is open and the notification center accepts. -/
theorem watched_watch (host : Host W) (s : System W) : Watched s (s.watch host) := by
  unfold watch
  split
  · exact .already ‹_›
  · rename_i hw
    have hw : s.loop.watching = none := by simpa using hw
    simp only
    generalize hq : (⟨⟨s.nextSubscription⟩, s.extension.user⟩ : SubscriptionRequest) = q
    have hid : (⟨s.nextSubscription⟩ : Subscription) = q.id := by rw [← hq]
    generalize hr : host.subscribe s.world q = r
    have hbefore : Offstage (s.record (.call (.subscribe q r.answer)))
        ({ s with nextSubscription := s.nextSubscription + 1 }.record
          (.call (.subscribe q r.answer))) :=
      { Offstage.refl (s.record (.call (.subscribe q r.answer))) with }
    have h := hbefore.trans (offstage_consult host _ (.subscribe q r.answer) r)
    generalize consult host _ (.subscribe q r.answer) r = t at h
    split <;> rename_i ha <;> rw [ha] at h
    · rw [hid]
      exact .opened hw (h.trans (offstage_note rfl))
    · exact .refused hw (h.trans (offstage_note rfl))

/-- Watching changes nothing but the subscription. -/
theorem exists_loop_watch (host : Host W) (s : System W) : ∃ watching,
    (s.watch host).loop = { s.loop with watching } := by
  have h := watched_watch host s
  generalize s.watch host = t at h ⊢
  cases h with
  | already => exact ⟨s.loop.watching, rfl⟩
  | @opened q _ _ h =>
    exact ⟨some q.id, congrArg (fun l : Loop => { l with watching := some q.id }) h.loop⟩
  | refused _ h => exact ⟨s.loop.watching, h.loop⟩

/-- Nor does giving up change anything else but the state. -/
theorem exists_loop_giveUp (host : Host W) (s : System W) : ∃ watching,
    (s.giveUp host).loop = { s.loop with state := .givingUp, watching } := by
  obtain ⟨t, ht, heq⟩ := exists_giveUp_eq host s
  have hl : t.loop = s.loop := by rcases ht with rfl | rfl <;> rfl
  obtain ⟨watching, h⟩ := exists_loop_watch host { t with loop.state := .givingUp }
  exact ⟨watching, by rw [heq, h, hl]⟩

/-- Checking the availability is offstage; if the extension does not resolve, watching
follows. -/
theorem exists_checkAvailable_eq (host : Host W) (s : System W) : ∃ t, Offstage s t ∧
    (s.checkAvailable host = (t, true) ∨ s.checkAvailable host = (t.watch host, false)) := by
  have h := offstage_resolve host s
  unfold checkAvailable
  split <;> rename_i heq <;> rw [heq] at h
  · exact ⟨_, h, .inl rfl⟩
  · exact ⟨_, h.trans (offstage_note rfl), .inr rfl⟩

end System

/-! ## Binding -/

/-- The request by which the loop would ask for a bind. -/
def System.request (s : System W) : BindRequest := ⟨⟨s.nextToken⟩, s.extension, s.config.flags⟩

/-- The loop asks for a bind, and is answered `a`. -/
def System.asked (s : System W) (a : Except Error BindHandle) : System W :=
  ({ s with loop.retryCount := s.loop.retryCount + 1 }.note
    (.binding s.request.token (s.loop.retryCount + 1))).record (.call (.bind s.request a))

/-- The loop has counted the bind that it is about to ask for. -/
def System.trying (s : System W) : System W :=
  { s with loop.retryCount := s.loop.retryCount + 1, nextToken := s.nextToken + 1 }.note
    (.binding s.request.token (s.loop.retryCount + 1))

/-- What comes of trying to bind: `Tried s t` says that `s` became `t`. -/
inductive Tried (s : System W) : System W → Prop
  | accepted {b : BindHandle} {t : System W} (h : Offstage (s.asked (.ok b)) t) :
    Tried s { t with
      loop.binding := some b, loop.attempt := some s.request.token, loop.state := .connecting }
  | failed {e : Error} {t : System W} (h : Offstage (s.asked (.error e)) t) :
    Tried s { t with loop.state := .unbound }.scheduleRetry

namespace System

/-- To try a bind is to ask for it, and then to keep what is granted or to schedule a retry; while
the binder is asked, only callers and collaborators do anything. -/
theorem exists_tryBind_eq (host : Host W) (s : System W) : ∃ t,
    (∃ b, Touched (s.trying.record (.call (.bind s.request (.ok b)))) t ∧
      s.tryBind host = t.keepBinding host s.request.token b) ∨
    (∃ e, Touched (s.trying.record (.call (.bind s.request (.error e)))) t ∧
      s.tryBind host = { t.note (.bindFailed e) with loop.state := .unbound }.scheduleRetry) := by
  have h := touched_consultFreely host s.trying
    (.bind s.request (host.bind s.trying.world s.request).answer)
    (host.bind s.trying.world s.request)
  cases ha : (host.bind s.trying.world s.request).answer with
  | ok b =>
    rw [ha] at h
    refine ⟨_, .inl ⟨b, h, ?_⟩⟩
    simp only [trying, request] at ha
    simp only [tryBind, ha]
    rfl
  | error e =>
    rw [ha] at h
    refine ⟨_, .inr ⟨e, h, ?_⟩⟩
    simp only [trying, request] at ha
    simp only [tryBind, ha]
    rfl

/-- Without a binding there is none to give back when one is kept. -/
theorem keepBinding_eq (host : Host W) {s : System W} (hb : s.loop.binding = none)
    (token : BindToken) (b : BindHandle) : s.keepBinding host token b =
      { s with loop.binding := some b, loop.attempt := some token, loop.state := .connecting } := by
  simp only [keepBinding, hb]

/-- A bind with no binding at hand is accepted and kept, or fails and is retried. -/
theorem tried_tryBind (host : Host W) {s : System W} (hb : s.loop.binding = none) :
    Tried s (s.tryBind host) := by
  have hasked (a : Except Error BindHandle) :
      Offstage (s.asked a) (s.trying.record (.call (.bind s.request a))) :=
    { Offstage.refl (s.asked a) with nextToken := Nat.le_succ _ }
  obtain ⟨t, ⟨b, ht, heq⟩ | ⟨e, ht, heq⟩⟩ := exists_tryBind_eq host s
  · have h := (hasked _).trans ht.offstage
    have htb : t.loop.binding = none := by
      rw [h.loop]
      exact hb
    rw [heq, keepBinding_eq host htb]
    exact .accepted h
  · rw [heq]
    exact .failed (((hasked _).trans ht.offstage).trans (offstage_note rfl))

end System

/-! ## Connections -/

namespace System

/-- The loop takes the session that came of the bind in flight, up to the end of the replay. -/
def join (host : Host W) (s : System W) (x : Session) : System W × Outcome :=
  { { s.note (.connected x.token) with loop.retryCount := 0 }.linkToDeath host x with
    loop.session := some x, loop.state := .connected }.publishSession host x

/-- A flush ends with the connection it waited for. -/
def endFlush (host : Host W) (s : System W) : System W :=
  if s.loop.flushing then s.finishFlush host else s

/-- The loop has a session, and counts its binds anew. -/
def joined (s : System W) (x : Session) : System W :=
  { s.note (.connected x.token) with
    loop.retryCount := 0, loop.session := some x, loop.state := .connected }

variable {s : System W}

/-- To join a session is to replay what waits to it, and to put it into the slot if it accepted
all of it. -/
theorem exists_join_eq (host : Host W) (s : System W) (x : Session) : ∃ v u o,
    Unheard (s.joined x) v ∧ Offstage (s.joined x) v ∧ v.replay host x = (u, o) ∧
      s.join host x = ({ u with slot := if o.failed then u.slot else some x }, o) := by
  have hu := unheard_linkToDeath host { s.note (.connected x.token) with loop.retryCount := 0 } x
  have ho := offstage_linkToDeath host { s.note (.connected x.token) with loop.retryCount := 0 } x
  unfold join
  generalize { s.note (.connected x.token) with loop.retryCount := 0 }.linkToDeath host x = v
    at hu ho ⊢
  have hloop : { v.loop with session := some x, state := .connected } = (s.joined x).loop := by
    simp only [hu.loop]
    rfl
  have hu : Unheard (s.joined x) { v with loop.session := some x, loop.state := .connected } :=
    { hu with loop := hloop }
  have ho : Offstage (s.joined x) { v with loop.session := some x, loop.state := .connected } :=
    { ho with loop := hloop }
  generalize { v with loop.session := some x, loop.state := .connected } = w at hu ho ⊢
  cases hr : w.replay host x with
  | mk u o =>
    refine ⟨w, u, o, hu, ho, hr, ?_⟩
    simp only [publishSession, hr]
    split
    · rfl
    · rfl

/-- What happens to a session that joins is offstage. -/
theorem offstage_join (host : Host W) (s : System W) (x : Session) :
    Offstage (s.joined x) (s.join host x).1 := by
  obtain ⟨v, u, o, -, hv, hr, heq⟩ := exists_join_eq host s x
  have hreplay := offstage_replay host v x
  rw [hr] at hreplay
  rw [heq]
  exact hv.trans { hreplay with }

theorem connected_eq (host : Host W) {token : BindToken} (transport : TransportId)
    (ha : s.loop.attempt = some token) (hst : s.loop.state = .connecting) :
    s.connected host token transport =
      let o := (s.join host ⟨token, transport⟩).2
      let t := (s.join host ⟨token, transport⟩).1.note (.replayFinished token o.delivered o.dropped)
      let u := { t with loop.dropped := t.loop.dropped + o.dropped }
      (if o.failed then u.sessionDied host token .dispatchFailed else u).endFlush host := by
  rw [connected, if_pos ⟨ha, hst⟩]
  rfl

/-- The bind in flight leads to a session; if it refused a replayed event it dies, and then a
flush ends. -/
theorem exists_connected_eq (host : Host W) {token : BindToken} (transport : TransportId)
    (ha : s.loop.attempt = some token) (hst : s.loop.state = .connecting) :
    ∃ (dropped : Nat) (failed : Bool) (t : System W),
      Offstage { s.joined ⟨token, transport⟩ with loop.dropped := dropped } t ∧
      s.connected host token transport =
        (if failed then t.sessionDied host token .dispatchFailed else t).endFlush host := by
  have h := offstage_join host s ⟨token, transport⟩
  rw [connected_eq host transport ha hst]
  generalize s.join host ⟨token, transport⟩ = j at h ⊢
  refine ⟨j.1.loop.dropped + j.2.dropped, j.2.failed, _, ?_, rfl⟩
  have hnote := h.trans
    (offstage_note (n := .replayFinished token j.2.delivered j.2.dropped) rfl)
  exact { hnote with
    loop := congrArg (fun l : Loop => { l with dropped := j.1.loop.dropped + j.2.dropped }) h.loop }

/-! ## Signals -/

/-- A signal of ours closes the subscription and may allow binds again; then a connection that
is wanted is tried. -/
theorem exists_availabilityChanged_eq (host : Host W) (s : System W) (x : Signal)
    (changed : Bool) : ∃ t u, Offstage s t ∧ u = (t.unwatch host).allowBinds ∧
      s.availabilityChanged host x changed =
        if u.loop.desired then (u.note .rebinding).bind host else u := by
  have h : Offstage s (s.note (.availabilityChanged x)) := offstage_note rfl
  refine ⟨_, _, ?_, rfl, rfl⟩
  split
  · exact h.trans (offstage_announceChange host _)
  · exact h

/-- A signal of ours was received by the open subscription. -/
theorem eq_of_classify_eq_relevant {s : System W} {id : Subscription} {x : Signal} {changed : Bool}
    (h : s.classify id x = .relevant changed) :
    s.loop.watching = some id ∧ x.concerns s.extension.package = true := by
  unfold classify at h
  split at h
  · cases h
  rename_i hwatching
  split at h <;> rename_i hconcerns
  · exact ⟨Decidable.not_not.1 hwatching, hconcerns⟩
  · cases h

theorem obey_of_relevant (host : Host W) {s : System W} {id : Subscription} {x : Signal}
    {changed : Bool} (h : s.classify id x = .relevant changed) :
    s.obey host (.signal id x) = s.availabilityChanged host x changed := by
  simp only [obey, signalled, h]

end System

end Supervision
