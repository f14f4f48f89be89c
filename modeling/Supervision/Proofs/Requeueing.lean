import Supervision.Proofs.Recounting

/-!
# What waits after a replay

A session accepts the events of a plan up to the first that it refuses. That one and those behind
it are deferred again, in the order of the plan, to the queue that was drained for the replay. So
what waits in the end is what a fresh queue makes of the events that were kept (`Shelved`), and
nothing else that the command does who reports the connection adds to it (`System.shelved_step`).

From then on the queue stands, the level included, until somebody addresses the extension: a caller
who tells it something, or the next replay (`System.pending_of_unaddressed`).
-/

namespace Supervision

variable {W : Type} {host : Host W} {s t u : System W} {x : Session} {o : System.Outcome}

/-! ## Queues in which the same waits -/

namespace Pending

variable {p q : Pending}

/-- The same events wait, whatever the level. -/
structure Alike (p q : Pending) : Prop where
  kinds : p.kinds = q.kinds
  target : p.target = q.target

theorem Alike.trans {r : Pending} (h : p.Alike q) (h' : q.Alike r) : p.Alike r :=
  ⟨h.kinds.trans h'.kinds, h.target.trans h'.target⟩

/-- Queues in which the same waits stay so when the same is deferred. -/
theorem Alike.defer (h : p.Alike q) (e : LifecycleEvent) : (p.defer e).Alike (q.defer e) := by
  constructor <;> cases e <;> simp [Pending.defer, LifecycleEvent.kind?, enqueue, h.kinds, h.target]

theorem Alike.quell (h : p.Alike q) (e : LifecycleEvent) : (p.quell e).Alike q :=
  ⟨(kinds_quell p e).trans h.kinds, (target_quell p e).trans h.target⟩

/-- To be told something and to defer it is, but for the level, to defer it. -/
theorem recount_concat (p : Pending) (calls : List LifecycleEvent) (e : LifecycleEvent) :
    ((p.recount calls).defer e).Alike (p.recount (calls ++ [e])) := by
  have h : p.recount (calls ++ [e]) = ((p.recount calls).heed e).defer e := by
    simp [recount, List.foldl_append]
  rw [h]
  exact Alike.defer ⟨(kinds_heed _ e).symm, (target_heed _ e).symm⟩ e

/-- What waits once one more event of a replay is kept. -/
theorem Alike.keep {kept : List LifecycleEvent} (h : p.Alike (q.recount kept))
    (e : LifecycleEvent) : ((p.quell e).defer e).Alike (q.recount (kept ++ [e])) :=
  ((h.quell e).defer e).trans (recount_concat q kept e)

end Pending

/-! ## Replays -/

/-- What going through some items of a replay to `x` did: the events `done` were accepted, and of
the events `kept` the first was refused, if there is one, and all of them wait. -/
structure Shelved (x : Session) (items : List Replay.Item) (s t : System W) (o : System.Outcome)
    (done kept : List LifecycleEvent) : Prop where
  events : items.filterMap Replay.Item.event? = done ++ kept
  sent : t.journal.sent =
    s.journal.sent ++ (done.map (·, true) ++ kept.head?.toList.map (·, false)).map (x, ·)
  failed : o.failed = !kept.isEmpty
  waits : t.pending.Alike (({} : Pending).recount kept)

namespace Shelved

variable {items : List Replay.Item} {i : Replay.Item} {o' : System.Outcome}
  {done kept : List LifecycleEvent}

/-- If an event was refused, it was kept. -/
theorem exists_refused (h : Shelved x items s t o done kept) (ho : o.failed = true) :
    ∃ e rest, kept = e :: rest := by
  cases kept with
  | nil => cases ho.symm.trans h.failed
  | cons e rest => exact ⟨e, rest, rfl⟩

/-- One more item of the plan. -/
theorem of_replayed (h : Shelved x items s t o done kept) (hi : Replayed x t o i u o') :
    ∃ done' kept', Shelved x (items ++ [i]) s u o' done' kept' := by
  have hevents (e : LifecycleEvent) :
      (items ++ [Replay.Item.send e]).filterMap Replay.Item.event? = done ++ kept ++ [e] := by
    rw [List.filterMap_append, h.events]
    rfl
  cases hi with
  | discarded k =>
    refine ⟨done, kept, ?_, ?_, h.failed, h.waits⟩
    · rw [List.filterMap_append, h.events]
      exact List.append_nil _
    · rw [← h.sent]
      exact Journal.sent_cons.trans (List.append_nil _)
  | @kept e _ ho hu =>
    -- an event was refused before
    obtain ⟨e', kept, rfl⟩ := h.exists_refused ho
    refine ⟨done, e' :: (kept ++ [e]), ?_, ?_, h.failed, ?_⟩
    · rw [hevents, List.append_assoc]
      rfl
    · rw [Journal.sent_of_growsBy hu.journal.uneventful]
      exact h.sent
    · rw [hu.pending]
      exact h.waits.keep e
  | @accepted e v _ a ho hv ha hu =>
    obtain rfl : kept = [] := by simpa [ho] using h.failed
    refine ⟨done ++ [e], [], ?_, ?_, ho, ?_⟩
    · rw [hevents]
      simp
    · rw [Journal.sent_of_dispatch hv.journal hu.journal, h.sent, ha]
      simp
    · rw [show u.pending = t.pending.quell e from hu.pending.trans hv.pending]
      exact h.waits.quell e
  | @refused e v _ a ho hv ha hu =>
    obtain rfl : kept = [] := by simpa [ho] using h.failed
    refine ⟨done, [e], ?_, ?_, rfl, ?_⟩
    · rw [hevents, List.append_nil]
    · rw [Journal.sent_of_dispatch hv.journal hu.journal, h.sent, ha]
      simp
    · rw [hu.pending, show v.pending = t.pending.quell e from hv.pending]
      exact h.waits.keep e

end Shelved

namespace System

/-- So a replay sends and discards what is done, and keeps the rest. -/
theorem shelved_of_replay (hr : s.replay host x = (t, o)) : ∃ done kept,
    Shelved x (Replay.plan s.pending.snapshot s.pending.listening) s t o done kept := by
  have h := replay_induct (motive := fun items t o => ∃ before done kept,
    Replay.plan s.pending.snapshot s.pending.listening = before ++ items ∧
      Shelved x before s t o done kept)
    ⟨[], [], [], rfl, rfl, ?_, rfl, rfl, rfl⟩ ?_ hr
  · obtain ⟨before, done, kept, hbefore, h⟩ := h
    rw [hbefore, List.append_nil]
    exact ⟨done, kept, h⟩
  · exact Journal.sent_cons
  · rintro i is u o v o' hi ⟨before, done, kept, hbefore, h⟩
    obtain ⟨done', kept', h'⟩ := h.of_replayed hi
    exact ⟨before ++ [i], done', kept', by simp [hbefore], h'⟩

/-! ## Connections -/

/-- To let go of a session, or to end a flush, is no business of the queue. -/
theorem pending_endFlush (host : Host W) {token : BindToken} (failed : Bool)
    (ha : s.loop.attempt = some token) (hst : s.loop.state = .connected) :
    ((if failed then s.sessionDied host token .dispatchFailed else s).endFlush host).pending =
      s.pending ∧
    s.journal.GrowsBy (·.isEventful = false)
      ((if failed then s.sessionDied host token .dispatchFailed else s).endFlush host).journal := by
  by_cases hlost : (failed || s.loop.flushing) = true
  · have h := lost_endFlush host ha hst hlost
    exact ⟨h.pending, h.journal⟩
  · obtain ⟨hfailed, hflushing⟩ := Bool.or_eq_false_iff.1 (Bool.eq_false_iff.2 hlost)
    have hkept : s.endFlush host = s := if_neg (by simp [hflushing])
    rw [if_neg (by simp [hfailed]), hkept]
    exact ⟨rfl, .refl _⟩

/-- The command that reports a connection for the bind in flight leaves waiting what the session
did not accept. -/
theorem shelved_step (host : Host W) {a : Step W} {token : BindToken} {transport : TransportId}
    (h : s.command? a = some (.connected token transport)) (ha : s.loop.attempt = some token)
    (hst : s.loop.state = .connecting) :
    ∃ done kept, s.pending.script = done ++ kept ∧
      (s.step host a).journal.sent = s.journal.sent ++
        (done.map (·, true) ++ kept.head?.toList.map (·, false)).map (⟨token, transport⟩, ·) ∧
      (s.step host a).pending.Alike (({} : Pending).recount kept) := by
  obtain ⟨rest, -, -, heq⟩ := exists_step_eq host h nofun
  generalize hr : note { s with inbox := rest } (.received (.connected token transport)) = r at heq
  have hpending : r.pending = s.pending := by
    rw [← hr]
    rfl
  have hsent : r.journal.sent = s.journal.sent := by
    rw [← hr]
    exact Journal.sent_cons.trans (List.append_nil _)
  have hattempt : r.loop.attempt = some token := by
    rw [← hr]
    exact ha
  have hstate : r.loop.state = .connecting := by
    rw [← hr]
    exact hst
  obtain ⟨v, u, w, o, hv, hreplay, hwp, hwl, -, hwj, hconnected⟩ :=
    exists_replay_of_connected host transport hattempt hstate
  have hul : u.loop = (r.joined ⟨token, transport⟩).loop :=
    (aside_of_replay hreplay).loop.trans hv.loop
  have hwattempt : w.loop.attempt = some token := by
    rw [hwl, hul]
    exact hattempt
  have hwstate : w.loop.state = .connected := by
    rw [hwl, hul]
    rfl
  have hend := pending_endFlush host o.failed hwattempt hwstate
  -- before the replay only facts were written; after it nothing is sent, and nothing deferred
  obtain ⟨done, kept, hshelved⟩ := shelved_of_replay hreplay
  have hvp : v.pending = s.pending := hv.pending.trans hpending
  have hvsent : v.journal.sent = s.journal.sent := by
    rw [Journal.sent_of_growsBy hv.journal.uneventful, ← hsent]
    exact Journal.sent_cons.trans (List.append_nil _)
  refine ⟨done, kept, ?_, ?_, ?_⟩
  · rw [← hshelved.events, hvp]
    rfl
  · rw [heq, obey, hconnected, Journal.sent_of_growsBy (still_publish _).journal.uneventful,
      Journal.sent_of_growsBy hend.2, Journal.sent_of_growsBy hwj.uneventful, hshelved.sent, hvsent]
  · rw [heq, obey, hconnected, (still_publish _).pending, hend.1, hwp]
    exact hshelved.waits

end System

/-! ## Until somebody addresses the extension -/

/-- A caller told the extension something, or a replay began. -/
def Fact.isAddress : Fact → Bool
  | .told .. | .planned .. => true
  | _ => false

/-- The queue stands if nobody has addressed the extension. -/
def Paused (s t : System W) : Prop :=
  ∃ new, t.journal = new ++ s.journal ∧
    ((∀ r ∈ new, r.fact.isAddress = false) → t.pending = s.pending)

namespace Paused

/-- Nothing is deferred while the queue stands. -/
theorem of_pending_eq {p : Fact → Prop} (h : t.pending = s.pending)
    (hj : s.journal.GrowsBy p t.journal) : Paused s t := by
  obtain ⟨new, hnew, -⟩ := hj
  exact ⟨new, hnew, fun _ => h⟩

theorem refl (s : System W) : Paused s s := ⟨[], rfl, fun _ => rfl⟩

theorem trans (h : Paused s t) (h' : Paused t u) : Paused s u := by
  obtain ⟨new, ht, hpending⟩ := h
  obtain ⟨new', hu, hpending'⟩ := h'
  refine ⟨new' ++ new, by rw [hu, ht, List.append_assoc], fun hnone => ?_⟩
  rw [List.forall_mem_append] at hnone
  exact (hpending' hnone.1).trans (hpending hnone.2)

/-- As soon as somebody is addressed, nothing need be said of the queue. -/
theorem of_address {f : Fact} {now : Nat} {p : Fact → Prop} (hf : f.isAddress = true)
    (hj : Journal.GrowsBy p (⟨now, f⟩ :: s.journal) t.journal) : Paused s t := by
  obtain ⟨new, hnew, -⟩ := hj
  refine ⟨new ++ [⟨now, f⟩], by simp [hnew], fun hnone => ?_⟩
  cases (hnone ⟨now, f⟩ (by simp)).symm.trans hf

/-- A session is addressed when it is told something, whether it accepts that or not. -/
theorem of_dispatch {e : LifecycleEvent} {a : Except Error Unit} {p : Fact → Prop}
    (hj : Journal.GrowsBy p
      ((s.record (.told e (some x))).record (.call (.dispatch x e a))).journal t.journal) :
    Paused s t := by
  have htold : Journal.GrowsBy (fun _ => True) (⟨s.clock, .told e (some x)⟩ :: s.journal)
    ((s.record (.told e (some x))).record (.call (.dispatch x e a))).journal := .cons trivial
  exact of_address rfl (htold.trans (hj.imp fun _ _ => trivial))

/-- What a caller tells addresses the extension. -/
theorem of_told {e : LifecycleEvent} (h : Told s e t) : Paused s t := by
  cases h with
  | untold => exact .refl s
  | deferred _ ht => exact of_address rfl ht.journal
  | accepted _ _ ht => exact of_dispatch ht.journal
  | refused _ _ ht => exact of_dispatch ht.journal

/-- A replay that sends nothing does not change what waits. -/
theorem of_replay (hr : s.replay host x = (t, o)) : Paused s t := by
  have h : Journal.GrowsBy (fun _ => True) (⟨s.clock, .planned x
      (Replay.plan s.pending.snapshot s.pending.listening)⟩ :: s.journal) t.journal := by
    refine System.replay_induct (motive := fun _ t _ => Journal.GrowsBy (fun _ => True) (⟨s.clock,
      .planned x (Replay.plan s.pending.snapshot s.pending.listening)⟩ :: s.journal) t.journal)
      (.refl _) ?_ hr
    intro i is u o v o' hi hu
    have grows {i j : Journal} (h : i.GrowsBy (·.isQuiet) j) : i.GrowsBy (fun _ => True) j :=
      h.imp fun _ _ => trivial
    have sends {w w' v : System W} {e : LifecycleEvent} {a : Except Error Unit}
        (hw : w.journal.GrowsBy (·.isQuiet) w'.journal)
        (hv : (w'.record (.call (.dispatch x e a))).journal.GrowsBy (·.isQuiet) v.journal) :
        w.journal.GrowsBy (fun _ => True) v.journal :=
      (grows hw).trans (.trans (.cons trivial) (grows hv))
    cases hi with
    | discarded => exact hu.trans (.cons trivial)
    | kept _ hv => exact hu.trans (grows hv.journal)
    | accepted _ hw _ hv => exact hu.trans (sends hw.journal hv.journal)
    | refused _ hw _ hv => exact hu.trans (sends hw.journal hv.journal)
  exact of_address rfl h

/-- Until somebody is addressed, whatever happens leaves the queue. -/
theorem of_move (h : Move host s t) : Paused s t := by
  cases h with
  | still h => exact of_pending_eq h.pending h.journal
  | told h => exact of_told h
  | lost h => exact of_pending_eq h.pending h.journal
  | sought _ hu =>
    have h := hu.induct (motive := Paused s) (.refl s)
      (fun _ _ h hs => hs.trans (of_pending_eq h.pending h.journal))
      fun _ _ _ h hs => hs.trans (of_told h)
    exact h
  | made _ _ hr =>
    have h := of_replay hr
    exact h
  | refused _ _ hr _ hl =>
    have h := of_replay hr
    exact Paused.trans h (of_pending_eq hl.pending hl.journal)

theorem of_run (host : Host W) (s : System W) (as : List (Step W)) :
    Paused s (s.run host as) := by
  induction as generalizing s with
  | nil => exact .refl s
  | cons a as ih =>
    have hstep : Paused s (s.step host a) :=
      step_induct (motive := Paused s) (fun _ _ _ h => h) (fun _ _ h hs => hs.trans (of_move h))
        (.refl s) a
    exact hstep.trans (ih _)

end Paused

/-- Until somebody addresses the extension, the queue and the level stand in every run. -/
theorem System.pending_of_unaddressed {as : List (Step W)}
    (h : s.journal.GrowsBy (·.isAddress = false) (s.run host as).journal) :
    (s.run host as).pending = s.pending := by
  obtain ⟨new, hnew, hpending⟩ := Paused.of_run host s as
  obtain ⟨new', hnew', hnone⟩ := h
  obtain rfl : new = new' := List.append_cancel_right (hnew.symm.trans hnew')
  exact hpending hnone

end Supervision
