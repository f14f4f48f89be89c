import Supervision.Proofs.Doings
import Supervision.Proofs.Sessions

/-!
# How far a replay gets

A replay goes through the whole of its plan, whether or not the session accepts what it is sent.
The session is sent the events of the plan up to the first that it refuses (`Replay.Carried`).
What the plan drops is dropped in any case, and so is the level turned off before a removal
(`Enacted`).

A replay is part of the command that reports a connection for the bind in flight. `Introduced`
says what the whole command does for the events and the slot (`System.introduced_step`): when it
is done, the session is in the slot, unless it refused an event or was only wanted for a flush.
-/

namespace Supervision

/-! ## What was sent -/

/-- The session that an event was sent to, the event, and whether it was accepted. -/
def Fact.sent? : Fact → Option (Session × LifecycleEvent × Bool)
  | .call (.dispatch x e a) => some (x, e, a.isOk)
  | _ => none

theorem Fact.sent?_eq_none {f : Fact} (h : f.isEventful = false) : f.sent? = none := by
  unfold sent?
  split
  · cases h
  · rfl

namespace Journal

/-- What was sent to sessions, in order. -/
def sent (j : Journal) : List (Session × LifecycleEvent × Bool) := j.chronicle Fact.sent?

variable {r : Record} {j : Journal}

theorem sent_cons : sent (r :: j) = j.sent ++ r.fact.sent?.toList := chronicle_cons ..

theorem sent_of_growsBy {j' : Journal} (h : j.GrowsBy (·.isEventful = false) j') :
    j'.sent = j.sent :=
  chronicle_of_growsBy h fun _ => Fact.sent?_eq_none

/-- What was sent to a token's session is what was sent to it among all that was sent. -/
theorem dispatches_eq (token : BindToken) (j : Journal) :
    j.dispatches token = (j.sent.filter (·.1.token = token)).map Prod.snd := by
  induction j with
  | nil => rfl
  | cons r j ih =>
    rw [dispatches_cons, sent_cons, List.filter_append, List.map_append, ih]
    congr 1
    cases r.fact with
    | call c =>
      cases c with
      | dispatch x e a => by_cases hx : x.token = token <;> simp [Fact.dispatch?, Fact.sent?, hx]
      | _ => rfl
    | _ => rfl

/-- What is sent to a session is added to what was sent to its token's session. -/
theorem dispatches_of_sent {j' : Journal} {x : Session} {ds : List (LifecycleEvent × Bool)}
    (h : j'.sent = j.sent ++ ds.map (x, ·)) :
    j'.dispatches x.token = j.dispatches x.token ++ ds := by
  simp [dispatches_eq, h, List.filter_map, Function.comp_def]

end Journal

/-! ## Plans -/

namespace Replay

/-- How far a session was sent the events of a plan: all of them were accepted, or one of them
was refused, and none after it was sent. -/
inductive Carried (plan : List LifecycleEvent) : Bool → List (LifecycleEvent × Bool) → Prop
  | through : Carried plan false (plan.map (·, true))
  | refused {done rest : List LifecycleEvent} {e : LifecycleEvent} (h : plan = done ++ e :: rest) :
      Carried plan true (done.map (·, true) ++ [(e, false)])

namespace Carried

variable {plan : List LifecycleEvent} {ds : List (LifecycleEvent × Bool)}

theorem accept (h : Carried plan false ds) (e : LifecycleEvent) :
    Carried (plan ++ [e]) false (ds ++ [(e, true)]) := by
  cases h
  have h : Carried (plan ++ [e]) false ((plan ++ [e]).map (·, true)) := .through
  rwa [List.map_append] at h

theorem refuse (h : Carried plan false ds) (e : LifecycleEvent) :
    Carried (plan ++ [e]) true (ds ++ [(e, false)]) := by
  cases h
  exact .refused rfl

/-- A session that has refused an event is sent none of those behind it. -/
theorem keep (h : Carried plan true ds) (e : LifecycleEvent) :
    Carried (plan ++ [e]) true ds := by
  cases h with
  | refused h => exact .refused (by rw [h, List.append_assoc]; rfl)

/-- A session that refused nothing accepted the whole plan. -/
theorem eq_false {failed : Bool} (h : Carried plan failed ds) (hds : ∀ d ∈ ds, d.2 = true) :
    failed = false := by
  cases h with
  | through => rfl
  | @refused done rest e => cases hds (e, false) (by simp)

end Carried

/-- The plan stops before a removal, if the level is on. -/
theorem stop_mem_plan_iff (pending : Snapshot) (listening : Bool) :
    .send .stopListening ∈ plan pending listening ↔
      pending.contains .removed = true ∧ listening = true := by
  have hclick : .send .stopListening ≠ click pending listening := by
    unfold click
    split <;> simp
  have hunlock : .send .stopListening ≠ unlock listening := by
    cases listening <;> simp [unlock]
  simp [plan, hclick, hunlock]

end Replay

/-! ## Replays -/

variable {W : Type} {host : Host W} {s t u : System W} {x : Session} {o : System.Outcome}

/-- What going through some items of a replay to `x` did: from `s` it led to `t` and the outcome
`o`. -/
structure Enacted (x : Session) (items : List Replay.Item) (s t : System W) (o : System.Outcome) :
    Prop where
  sent : ∃ ds, t.journal.sent = s.journal.sent ++ ds.map (x, ·) ∧
    Replay.Carried (items.filterMap Replay.Item.event?) o.failed ds
  listening : t.pending.listening = true ↔
    s.pending.listening = true ∧ .send .stopListening ∉ items
  dropped : o.dropped = items.countP (·.discarded?.isSome)

theorem Pending.contains_snapshot (p : Pending) : p.snapshot.contains = p.contains := by
  funext k
  cases p
  rfl

theorem Pending.listening_quell_iff (p : Pending) (e : LifecycleEvent) :
    (p.quell e).listening = true ↔ p.listening = true ∧ .stopListening ≠ e := by
  cases e <;> simp [quell, setListening]

/-- A dispatch and what is said about it. -/
theorem Journal.sent_of_dispatch {i j k : Journal} {e : LifecycleEvent} {a : Except Error Unit}
    {now : Nat} (hi : i.GrowsBy (·.isQuiet) j)
    (hk : GrowsBy (·.isQuiet) (⟨now, .call (.dispatch x e a)⟩ :: j) k) :
    k.sent = i.sent ++ [(x, e, a.isOk)] := by
  rw [sent_of_growsBy hk.uneventful, sent_cons, sent_of_growsBy hi.uneventful]
  rfl

namespace Enacted

variable {items : List Replay.Item} {i : Replay.Item} {o' : System.Outcome}

/-- To send one more event lowers the level if it says so. -/
theorem listening_quell_iff (h : Enacted x items s t o) (e : LifecycleEvent) :
    (t.pending.quell e).listening = true ↔
      s.pending.listening = true ∧ .send .stopListening ∉ items ++ [.send e] := by
  rw [Pending.listening_quell_iff, h.listening]
  simp [and_assoc]

/-- To send one more event drops none. -/
theorem dropped_send (h : Enacted x items s t o) (e : LifecycleEvent) :
    o.dropped = (items ++ [Replay.Item.send e]).countP (·.discarded?.isSome) := by
  rw [h.dropped]
  simp [Replay.Item.discarded?]

/-- One more item of the plan. -/
theorem of_replayed (h : Enacted x items s t o) (hi : Replayed x t o i u o') :
    Enacted x (items ++ [i]) s u o' := by
  obtain ⟨ds, hds, hcarried⟩ := h.sent
  cases hi with
  | discarded k =>
    refine ⟨⟨ds, ?_, ?_⟩, ?_, ?_⟩
    · rw [← hds]
      exact Journal.sent_cons.trans (List.append_nil _)
    · simpa [List.filterMap_cons, Replay.Item.event?] using hcarried
    · exact h.listening.trans (by simp)
    · simp [h.dropped, Replay.Item.discarded?]
  | @kept e _ ho hu =>
    rw [ho] at hcarried
    refine ⟨⟨ds, ?_, ?_⟩, ?_, h.dropped_send e⟩
    · rw [← hds]
      exact Journal.sent_of_growsBy hu.journal.uneventful
    · simpa [ho, Replay.Item.event?] using hcarried.keep e
    · rw [hu.pending, Pending.listening_defer]
      exact h.listening_quell_iff e
  | @accepted e v _ a ho hv ha hu =>
    rw [ho] at hcarried
    refine ⟨⟨ds ++ [(e, true)], ?_, ?_⟩, ?_, h.dropped_send e⟩
    · rw [Journal.sent_of_dispatch hv.journal hu.journal, hds, ha]
      simp
    · simpa [ho, Replay.Item.event?] using hcarried.accept e
    · rw [show u.pending = t.pending.quell e from hu.pending.trans hv.pending]
      exact h.listening_quell_iff e
  | @refused e v _ a ho hv ha hu =>
    rw [ho] at hcarried
    refine ⟨⟨ds ++ [(e, false)], ?_, ?_⟩, ?_, h.dropped_send e⟩
    · rw [Journal.sent_of_dispatch hv.journal hu.journal, hds, ha]
      simp
    · simpa [Replay.Item.event?] using hcarried.refuse e
    · rw [hu.pending, Pending.listening_defer, hv.pending]
      exact h.listening_quell_iff e

end Enacted

/-- The events that a replay of the queue would send. -/
def Pending.script (p : Pending) : List LifecycleEvent :=
  (Replay.plan p.snapshot p.listening).filterMap Replay.Item.event?

/-- How many events a replay of the queue would drop. -/
def Pending.losses (p : Pending) : Nat :=
  (Replay.plan p.snapshot p.listening).countP (·.discarded?.isSome)

namespace System

/-- A replay goes through the whole plan. -/
theorem enacted_of_replay (hr : s.replay host x = (t, o)) :
    Enacted x (Replay.plan s.pending.snapshot s.pending.listening) s t o := by
  have h := replay_induct (motive := fun items t o => ∃ done,
    Replay.plan s.pending.snapshot s.pending.listening = done ++ items ∧ Enacted x done s t o)
    ⟨[], rfl, ?_⟩ ?_ hr
  · obtain ⟨done, hdone, h⟩ := h
    rwa [hdone, List.append_nil]
  · refine ⟨⟨[], ?_, .through⟩, ?_, rfl⟩
    · simp [System.record, Journal.sent_cons, Fact.sent?]
    · simp
  · rintro i is u o v o' hi ⟨done, hdone, h⟩
    exact ⟨done ++ [i], by simp [hdone], h.of_replayed hi⟩

/-- After a replay the level is on if it was and no removal was replayed. -/
theorem listening_of_replay (hr : s.replay host x = (t, o)) :
    t.pending.listening = (s.pending.listening && !s.pending.contains .removed) := by
  have h := (enacted_of_replay hr).listening
  rw [Replay.stop_mem_plan_iff, Pending.contains_snapshot] at h
  rw [Bool.eq_iff_iff, h]
  cases s.pending.contains .removed <;> simp

/-- A replay draws up one plan for its session. -/
theorem plans_of_replay (hr : s.replay host x = (t, o)) : t.journal.plans x.token =
    s.journal.plans x.token ++ [Replay.plan s.pending.snapshot s.pending.listening] := by
  have quiet {u v : System W} (h : Unheard u v) :
      v.journal.plans x.token = u.journal.plans x.token :=
    (Journal.sameOf_of_growsBy h.journal.foreign.elsewhere).plans
  have dispatch (u : System W) (e : LifecycleEvent) (a : Except Error Unit) :
      (u.record (.call (.dispatch x e a))).journal.plans x.token = u.journal.plans x.token :=
    Journal.plans_cons.trans (List.append_nil _)
  refine replay_induct (motive := fun _ t _ => t.journal.plans x.token =
    s.journal.plans x.token ++ [Replay.plan s.pending.snapshot s.pending.listening]) ?_ ?_ hr
  · simp [System.record, Journal.plans_cons, Fact.plan?]
  · intro i is u o v o' hi hu
    cases hi with
    | discarded k => exact (Journal.plans_cons.trans (List.append_nil _)).trans hu
    | kept _ hv => exact (quiet hv).trans hu
    | accepted _ hw _ hv => exact ((quiet hv).trans (dispatch _ _ _)).trans ((quiet hw).trans hu)
    | refused _ hw _ hv => exact ((quiet hv).trans (dispatch _ _ _)).trans ((quiet hw).trans hu)

/-! ## Connections -/

/-- A session that refused an event, or was only wanted for a flush, is let go of. -/
theorem lost_endFlush (host : Host W) {token : BindToken} {failed : Bool}
    (ha : s.loop.attempt = some token) (hst : s.loop.state = .connected)
    (h : (failed || s.loop.flushing) = true) :
    Lost s ((if failed then s.sessionDied host token .dispatchFailed else s).endFlush host) := by
  have ends {w : System W} (hw : Lost s w) : Lost s (w.endFlush host) := by
    unfold endFlush
    split
    · exact hw.trans (lost_finishFlush host w)
    · exact hw
  cases failed with
  | true => exact ends (lost_sessionDied host _ ha (by rw [hst]; simp [ConnectionState.isIdle]))
  | false =>
    have hf : s.loop.flushing = true := h
    simp only [Bool.false_eq_true, if_false, endFlush, hf, if_true]
    exact lost_finishFlush host s

end System

/-- What became of the events and the slot when the bind in flight led to the session `x` : what
waited was replayed to it, and it is in the slot, unless it refused an event or was only wanted
for a flush. -/
structure Introduced (x : Session) (failed : Bool) (s t : System W) : Prop where
  sent : ∃ ds, t.journal.sent = s.journal.sent ++ ds.map (x, ·) ∧
    Replay.Carried s.pending.script failed ds
  listening : t.pending.listening = (s.pending.listening && !s.pending.contains .removed)
  empty : failed = false → t.pending.kinds = .empty ∧ t.pending.target = none
  dropped : t.loop.dropped = s.loop.dropped + s.pending.losses
  slot : t.slot = if failed || s.loop.flushing then none else some x
  state : t.loop.attempt = some x.token → t.loop.state = .connected
  planned : t.journal.plans x.token ≠ []

namespace Introduced

variable {failed : Bool}

theorem of_unheard (h : Introduced x failed t u) (hs : Unheard s t) : Introduced x failed s u := by
  obtain ⟨⟨ds, hds, hcarried⟩, hlistening, hempty, hdropped, hslot, hstate, hplanned⟩ := h
  rw [Journal.sent_of_growsBy hs.journal.uneventful] at hds
  rw [hs.pending] at hcarried hlistening
  rw [hs.loop, hs.pending] at hdropped
  rw [hs.loop] at hslot
  exact ⟨⟨ds, hds, hcarried⟩, hlistening, hempty, hdropped, hslot, hstate, hplanned⟩

theorem of_still (h : Introduced x failed s t) (ht : Still t u) : Introduced x failed s u := by
  obtain ⟨ds, hds, hcarried⟩ := h.sent
  refine ⟨⟨ds, ?_, hcarried⟩, ?_, ?_, ht.dropped.trans h.dropped, ht.slot.trans h.slot,
    fun ha => ?_, ?_⟩
  · exact (Journal.sent_of_growsBy ht.journal.uneventful).trans hds
  · rw [ht.pending]
    exact h.listening
  · rw [ht.pending]
    exact h.empty
  · have hst := h.state (ht.attempt ▸ ha)
    refine ht.state.elim (fun hu => hu.trans hst) fun hi => ?_
    cases hst ▸ hi.1
  · rw [(Journal.sameOf_of_growsBy ht.journal.foreign.elsewhere).plans]
    exact h.planned

/-- To have a session is no business of the events. -/
theorem of_joined (h : Introduced x failed (s.joined x) t) : Introduced x failed s t := by
  have hsent : (s.joined x).journal.sent = s.journal.sent :=
    Journal.sent_cons.trans (List.append_nil _)
  exact { h with sent := hsent ▸ h.sent }

/-- A replay leaves the events as they are in the end. -/
theorem of_replay (hr : s.replay host x = (u, o)) (hp : t.pending = u.pending)
    (hd : t.loop.dropped = u.loop.dropped + o.dropped)
    (hj : u.journal.GrowsBy (·.isEventful = false) t.journal)
    (hslot : t.slot = if o.failed || s.loop.flushing then none else some x)
    (hstate : t.loop.attempt = some x.token → t.loop.state = .connected) :
    Introduced x o.failed s t := by
  have henacted := System.enacted_of_replay hr
  obtain ⟨ds, hds, hcarried⟩ := henacted.sent
  refine ⟨⟨ds, (Journal.sent_of_growsBy hj).trans hds, hcarried⟩, ?_, fun ho => ?_, ?_, hslot,
    hstate, ?_⟩
  · rw [hp, System.listening_of_replay hr]
  · rw [hp]
    exact System.pending_of_replay hr ho
  · rw [hd, (System.aside_of_replay hr).loop, henacted.dropped]
    rfl
  · rw [(Journal.sameOf_of_growsBy (hj.imp fun _ => Fact.elsewhere_of_uneventful)).plans,
      System.plans_of_replay hr]
    simp

end Introduced

namespace System

/-- The loop joins the session, lets go of it if it refused an event, and ends a flush. -/
theorem exists_replay_of_connected (host : Host W) {token : BindToken} (transport : TransportId)
    (ha : s.loop.attempt = some token) (hst : s.loop.state = .connecting) :
    ∃ (v u w : System W) (o : Outcome), Unheard (s.joined ⟨token, transport⟩) v ∧
      v.replay host ⟨token, transport⟩ = (u, o) ∧
      w.pending = u.pending ∧
      w.loop = { u.loop with dropped := u.loop.dropped + o.dropped } ∧
      (o.failed = false → w.slot = some ⟨token, transport⟩) ∧
      u.journal.GrowsBy (·.isQuiet) w.journal ∧
      s.connected host token transport =
        (if o.failed then w.sessionDied host token .dispatchFailed else w).endFlush host := by
  obtain ⟨v, u, o, hv, -, hr, hjoin⟩ := exists_join_eq host s ⟨token, transport⟩
  rw [connected_eq host transport ha hst, hjoin]
  refine ⟨v, u, _, o, hv, hr, ?_, ?_, ?_, ?_, rfl⟩
  · rfl
  · rfl
  · exact fun ho => if_neg (Bool.eq_false_iff.1 ho)
  · exact .cons rfl

theorem introduced_connected (host : Host W) {token : BindToken} (transport : TransportId)
    (ha : s.loop.attempt = some token) (hst : s.loop.state = .connecting) :
    ∃ failed, Introduced ⟨token, transport⟩ failed s (s.connected host token transport) := by
  obtain ⟨v, u, w, o, hv, hr, hwp, hwl, hwslot, hwj, heq⟩ :=
    exists_replay_of_connected host transport ha hst
  have hul : u.loop = (s.joined ⟨token, transport⟩).loop := (aside_of_replay hr).loop.trans hv.loop
  have hattempt : w.loop.attempt = some token := by
    rw [hwl, hul]
    exact ha
  have hstate : w.loop.state = .connected := by
    rw [hwl, hul]
    rfl
  have hflushing : w.loop.flushing = s.loop.flushing := by
    rw [hwl, hul]
    rfl
  have hvflushing : v.loop.flushing = s.loop.flushing := by
    rw [hv.loop]
    rfl
  refine ⟨o.failed, .of_joined (.of_unheard ?_ hv)⟩
  rw [heq]
  by_cases hlost : (o.failed || s.loop.flushing) = true
  · have h := lost_endFlush host hattempt hstate (by rwa [hflushing])
    refine .of_replay hr (h.pending.trans hwp) (by rw [h.dropped, hwl])
      (hwj.uneventful.trans h.journal) ?_ fun ha => ?_
    · rw [h.slot, hvflushing, if_pos hlost]
    · cases h.attempt.symm.trans ha
  · obtain ⟨ho, hf⟩ := Bool.or_eq_false_iff.1 (Bool.eq_false_iff.2 hlost)
    have hkept : w.endFlush host = w := if_neg (by rw [hflushing, hf]; exact Bool.false_ne_true)
    rw [if_neg (Bool.eq_false_iff.1 ho), hkept]
    refine .of_replay hr hwp (by rw [hwl]) hwj.uneventful ?_ fun _ => hstate
    rw [hwslot ho, hvflushing, if_neg hlost]

/-- The command that reports a connection for the bind in flight introduces the session. -/
theorem introduced_step (host : Host W) {a : Step W} {token : BindToken} {transport : TransportId}
    (h : s.command? a = some (.connected token transport)) (ha : s.loop.attempt = some token)
    (hst : s.loop.state = .connecting) :
    ∃ failed, Introduced ⟨token, transport⟩ failed s (s.step host a) := by
  obtain ⟨rest, -, -, heq⟩ := exists_step_eq host h nofun
  have hnote : Unheard { s with inbox := rest }
      ({ s with inbox := rest }.note (.received (.connected token transport))) := unheard_note rfl
  obtain ⟨failed, h⟩ := introduced_connected (s := { s with inbox := rest }.note
    (.received (.connected token transport))) host transport ha hst
  rw [heq]
  exact ⟨failed, { (h.of_unheard hnote).of_still (still_publish _) with }⟩

end System

end Supervision
