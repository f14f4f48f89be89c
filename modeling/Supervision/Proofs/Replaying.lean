import Supervision.Proofs.Telling

/-!
# What a replay does

Each item of a replay plan ends in one of four ways (`Replayed`): a pending event is dropped;
or an event is sent and accepted, or sent, refused and deferred, or, once the session has
refused one, only deferred. A property of what is left of the plan, the supervisor and the
outcome so far that each item keeps is kept to the end of the replay (`replay_induct`).
-/

namespace Supervision

variable {W : Type}

/-- The queue when the replay comes to `e` : the stop before a removal turns the level off. -/
def Pending.quell (p : Pending) (e : LifecycleEvent) : Pending :=
  if e = .stopListening then p.setListening false else p

namespace Pending

@[simp] theorem kinds_quell (p : Pending) (e : LifecycleEvent) : (p.quell e).kinds = p.kinds := by
  cases e <;> rfl

@[simp] theorem target_quell (p : Pending) (e : LifecycleEvent) :
    (p.quell e).target = p.target := by
  cases e <;> rfl

end Pending

/-- What comes of an item of the plan: `Replayed x s o i t o'` says that replaying `i` to `x`
led from `s` and the outcome `o` to `t` and `o'`. -/
inductive Replayed (x : Session) (s : System W) (o : System.Outcome) :
    Replay.Item → System W → System.Outcome → Prop
  | discarded (k : EventKind) :
    Replayed x s o (.discard k) (s.note (.dropping x.token k)) { o with dropped := o.dropped + 1 }
  /-- The session refused an event before. -/
  | kept {e : LifecycleEvent} {t : System W} (ho : o.failed = true)
      (ht : Unheard { s with pending := (s.pending.quell e).defer e } t) :
      Replayed x s o (.send e) t o
  | accepted {e : LifecycleEvent} {u t : System W} {a : Except Error Unit} (ho : o.failed = false)
      (hu : Unheard { s with pending := s.pending.quell e } u) (ha : a.isOk = true)
      (ht : Unheard (u.record (.call (.dispatch x e a))) t) :
      Replayed x s o (.send e) t { o with delivered := o.delivered + 1 }
  | refused {e : LifecycleEvent} {u t : System W} {a : Except Error Unit} (ho : o.failed = false)
      (hu : Unheard { s with pending := s.pending.quell e } u) (ha : a.isOk = false)
      (ht : Unheard { u.record (.call (.dispatch x e a)) with pending := u.pending.defer e } t) :
      Replayed x s o (.send e) t { o with failed := true }

/-- No item of a replay changes the loop. -/
theorem Replayed.aside {x : Session} {s t : System W} {o o' : System.Outcome} {i : Replay.Item}
    (h : Replayed x s o i t o') : Aside s t := by
  cases h with
  | discarded k => exact { Aside.refl s with }
  | kept _ ht => exact { ht.toAside with }
  | accepted _ hu _ ht => exact { hu.toAside.trans { ht.toAside with } with }
  | refused _ hu _ ht => exact { hu.toAside.trans { ht.toAside with } with }

namespace System

/-- To say why an event is sent changes nothing. -/
theorem unheard_announce (s : System W) (x : Session) (listening : Bool) (e : LifecycleEvent) :
    Unheard s (s.announce x listening e) := by
  cases e with
  | stopListening => exact (unheard_note rfl).trans (unheard_note rfl)
  | removed =>
    simp only [announce]
    split
    · exact .refl s
    · exact unheard_note rfl
  | _ => exact unheard_note rfl

/-- The level is lowered before a removal is sent, and only then. -/
theorem lower_eq (s : System W) (e : LifecycleEvent) :
    s.lower e = { s with pending := s.pending.quell e } := by
  unfold lower Pending.quell
  split <;> rfl

/-- An item is discarded, kept for the next replay, accepted or refused. -/
theorem replayed_replayItem (host : Host W) (x : Session) (listening : Bool) (s : System W)
    (o : Outcome) (i : Replay.Item) :
    Replayed x s o i (replayItem host x listening (s, o) i).1
      (replayItem host x listening (s, o) i).2 := by
  cases i with
  | discard k => exact .discarded k
  | send e =>
    have hu : Unheard { s with pending := s.pending.quell e }
        ((s.announce x listening e).lower e) := by
      have h := unheard_announce s x listening e
      rw [lower_eq]
      exact { h with pending := congrArg (·.quell e) h.pending }
    simp only [replayItem]
    generalize (s.announce x listening e).lower e = u at hu
    obtain ⟨a, t, hf, ht⟩ := exists_forward_eq host u x e
    have hdefer : ∀ {v w : System W}, Unheard v w →
        Unheard { v with pending := v.pending.defer e } (w.defer e) := fun h =>
      { h with pending := congrArg (·.defer e) h.pending }
    unfold replayEvent
    split
    · rename_i ho
      exact .kept ho (hdefer hu)
    · rename_i ho
      rw [hf]
      cases ha : a.isOk with
      | true => exact .accepted (Bool.eq_false_iff.2 ho) hu ha ht
      | false => exact .refused (Bool.eq_false_iff.2 ho) hu ha (hdefer ht)

/-- What each item of the plan keeps holds at the end of the replay. -/
theorem replay_induct {host : Host W} {x : Session} {s t : System W} {o : Outcome}
    {motive : List Replay.Item → System W → Outcome → Prop}
    (start : motive (Replay.plan s.pending.snapshot s.pending.listening)
      { s.record (.planned x (Replay.plan s.pending.snapshot s.pending.listening)) with
        pending := s.pending.drained } {})
    (item : ∀ {i is s o t o'}, Replayed x s o i t o' → motive (i :: is) s o → motive is t o')
    (hr : s.replay host x = (t, o)) : motive [] t o := by
  have hfold : ∀ (l : Bool) (is : List Replay.Item) (s : System W) (o : Outcome), motive is s o →
      motive [] (is.foldl (replayItem host x l) (s, o)).1
        (is.foldl (replayItem host x l) (s, o)).2 := by
    intro l is
    induction is with
    | nil => exact fun _ _ h => h
    | cons i is ih =>
      exact fun s o h => ih _ _ (item (replayed_replayItem host x l s o i) h)
  have h := hfold s.pending.listening _ _ _ start
  rwa [show List.foldl _ _ _ = (t, o) from hr] at h

/-- A replay leaves the loop's own state alone. -/
theorem aside_of_replay {host : Host W} {s t : System W} {x : Session} {o : Outcome}
    (hr : s.replay host x = (t, o)) : Aside s t :=
  replay_induct (motive := fun _ t _ => Aside s t) { Aside.refl s with }
    (fun h hs => hs.trans h.aside) hr

/-- After a replay that was accepted no event waits. -/
theorem pending_of_replay {host : Host W} {s t : System W} {x : Session} {o : Outcome}
    (hr : s.replay host x = (t, o)) (ho : o.failed = false) :
    t.pending.kinds = .empty ∧ t.pending.target = none := by
  refine replay_induct (motive := fun _ t o =>
    o.failed = false → t.pending.kinds = .empty ∧ t.pending.target = none)
    (fun _ => ⟨rfl, rfl⟩) ?_ hr ho
  intro i is s o t o' h ih ho
  cases h with
  | discarded k => exact ih ho
  | kept hf => exact absurd ho (by simp [hf])
  | accepted hf hu _ ht =>
    have hp : t.pending = s.pending.quell _ := ht.pending.trans hu.pending
    simpa [hp] using ih hf
  | refused => cases ho

end System

end Supervision
