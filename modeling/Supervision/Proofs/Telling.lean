import Supervision.Proofs.Frame

/-!
# What callers tell the extension

A call that tells the extension something ends in one of three ways (`Told`): without a
session in the slot it is deferred; with one it is dispatched to it, and is either accepted,
or refused, deferred, and reported to the loop as a death to look into. All of it happens
aside from the loop's own state (`told_tell`, `Told.aside`).
-/

namespace Supervision

variable {W : Type}

/-- The queue of who was told `e`: a listening level is kept. -/
def Pending.heed (p : Pending) (e : LifecycleEvent) : Pending :=
  match e.level? with
  | some level => p.setListening level
  | none => p

namespace Pending

/-- Being told something adds no event to those that wait. -/
@[simp] theorem kinds_heed (p : Pending) (e : LifecycleEvent) : (p.heed e).kinds = p.kinds := by
  cases e <;> rfl

@[simp] theorem target_heed (p : Pending) (e : LifecycleEvent) : (p.heed e).target = p.target := by
  cases e <;> rfl

@[simp] theorem contains_heed (p : Pending) (e : LifecycleEvent) (k : EventKind) :
    (p.heed e).contains k = p.contains k := by
  cases e <;> rfl

/-- Events without a level set none. -/
theorem heed_of_level?_eq_none {e : LifecycleEvent} (he : e.level? = none) (p : Pending) :
    p.heed e = p := by
  simp [heed, he]

/-- The events about listening never wait. -/
theorem defer_ofLevel (p : Pending) (level : Bool) : p.defer (.ofLevel level) = p := by
  cases level <;> rfl

theorem heed_ofLevel (p : Pending) (level : Bool) :
    p.heed (.ofLevel level) = p.setListening level := by
  cases level <;> rfl

end Pending

theorem LifecycleEvent.eq_ofLevel {e : LifecycleEvent} {level : Bool} (h : e.level? = some level) :
    e = .ofLevel level := by
  cases e <;> simp_all [level?] <;> subst h <;> rfl

/-- What comes of telling the extension `e`: `Told s e t` says that `s` became `t`. -/
inductive Told (s : System W) (e : LifecycleEvent) : System W → Prop
  /-- Nobody holds a handle to tell it with. -/
  | untold : Told s e s
  /-- No session was in the slot. -/
  | deferred {t : System W} (hslot : s.slot = none)
      (ht : Unheard { s.record (.told e none) with pending := (s.pending.heed e).defer e } t) :
      Told s e t
  | accepted {t : System W} {x : Session} {a : Except Error Unit} (hslot : s.slot = some x)
      (ha : a.isOk = true)
      (ht : Unheard { (s.record (.told e (some x))).record (.call (.dispatch x e a)) with
        pending := s.pending.heed e } t) :
      Told s e t
  /-- The session refused; it leaves the slot, and the loop is to look after it. -/
  | refused {t : System W} {x : Session} {a : Except Error Unit} (hslot : s.slot = some x)
      (ha : a.isOk = false)
      (ht : Unheard { (s.record (.told e (some x))).record (.call (.dispatch x e a)) with
        pending := (s.pending.heed e).defer e, slot := none } t)
      (hcheck : s.phase ≠ .stopped → .deathCheck (some x.token) ∈ t.inbox) :
      Told s e t

/-- Telling leaves the loop's own state alone. -/
theorem Told.aside {s t : System W} {e : LifecycleEvent} (h : Told s e t) : Aside s t := by
  cases h with
  | untold => exact .refl s
  | deferred _ ht => exact { ht.toAside with }
  | accepted _ _ ht => exact { ht.toAside with }
  | refused _ _ ht _ => exact { ht.toAside with }

/-- A session only leaves the slot. -/
theorem Told.slot_eq {s t : System W} {e : LifecycleEvent} (h : Told s e t) :
    t.slot = s.slot ∨ t.slot = none := by
  cases h with
  | untold => exact .inl rfl
  | deferred _ ht => exact .inl ht.slot
  | accepted _ _ ht => exact .inl ht.slot
  | refused _ _ ht => exact .inr ht.slot

namespace System

variable {s : System W}

/-- A dispatch is written down with its answer, and all else that comes of it is unheard. -/
theorem exists_forward_eq (host : Host W) (s : System W) (x : Session) (e : LifecycleEvent) :
    ∃ (a : Except Error Unit) (t : System W), s.forward host x e = (t, a.isOk) ∧
      Unheard (s.record (.call (.dispatch x e a))) t := by
  have h := unheard_consult (s := s) host
    (.dispatch x e (host.dispatch s.world x.transport e).answer)
    (host.dispatch s.world x.transport e)
  refine ⟨(host.dispatch s.world x.transport e).answer, (s.forward host x e).1, ?_⟩
  simp only [forward]
  split <;> rename_i ha <;> rw [ha] at h ⊢
  · exact ⟨rfl, h.trans (unheard_note rfl)⟩
  · exact ⟨rfl, h.trans (unheard_note rfl)⟩

/-- A command that is posted before the loop stops waits in the inbox. -/
theorem mem_inbox_submit (h : s.phase ≠ .stopped) (c : Command) : c ∈ (s.submit c).inbox := by
  simp [submit, isOpen, h, enqueue]

/-- Without a session, what a caller tells is deferred. -/
theorem unheard_convey_of_empty (host : Host W) (e : LifecycleEvent) (hs : s.slot = none) :
    Unheard { s with pending := (s.pending.heed e).defer e } (s.convey host e) := by
  unfold convey
  cases hl : e.level? with
  | none =>
    rw [Pending.heed_of_level?_eq_none hl]
    have h : s.deliver host e = ((s.defer e).note (.deferred e)).submit (.deathCheck none) := by
      simp only [deliver, hs]
    rw [h]
    exact (unheard_note (s := s.defer e) (n := .deferred e) rfl).trans (unheard_submit _)
  | some level =>
    rw [LifecycleEvent.eq_ofLevel hl, Pending.heed_ofLevel, Pending.defer_ofLevel]
    simp only [setListening, hs]
    exact .refl _

/-- With a session it is sent to it, and deferred if it is refused. -/
theorem convey_of_session (host : Host W) (e : LifecycleEvent) {x : Session}
    (hs : s.slot = some x) : ∃ a : Except Error Unit,
      a.isOk = true ∧ Unheard { s.record (.call (.dispatch x e a)) with
        pending := s.pending.heed e } (s.convey host e) ∨
      a.isOk = false ∧ Unheard { s.record (.call (.dispatch x e a)) with
        pending := (s.pending.heed e).defer e, slot := none } (s.convey host e) ∧
        (s.phase ≠ .stopped → .deathCheck (some x.token) ∈ (s.convey host e).inbox) := by
  unfold convey
  cases hl : e.level? with
  | none =>
    rw [Pending.heed_of_level?_eq_none hl]
    obtain ⟨a, t, hf, ht⟩ := exists_forward_eq host s x e
    have ho (hs : s.phase ≠ .stopped) : t.phase ≠ .stopped := by rwa [ht.phase]
    refine ⟨a, ?_⟩
    simp only [deliver, hs, hf]
    cases ha : a.isOk with
    | true => exact .inl ⟨rfl, ht⟩
    | false =>
      have hd : Unheard { s.record (.call (.dispatch x e a)) with
          pending := s.pending.defer e, slot := none } (t.vacate.defer e) :=
        { ht with pending := congrArg (·.defer e) ht.pending, slot := rfl }
      refine .inr ⟨rfl, ?_, fun hs => ?_⟩
      · exact hd.trans ((unheard_note (n := .deferred e) rfl).trans (unheard_submit _))
      · exact mem_inbox_submit (s := (t.vacate.defer e).note (.deferred e)) (ho hs) _
  | some level =>
    rw [LifecycleEvent.eq_ofLevel hl, Pending.heed_ofLevel, Pending.defer_ofLevel]
    obtain ⟨a, t, hf, ht⟩ := exists_forward_eq host
      { s with pending := s.pending.setListening level, slot := some x } x (.ofLevel level)
    have ho (hs : s.phase ≠ .stopped) : t.phase ≠ .stopped := by rwa [ht.phase]
    refine ⟨a, ?_⟩
    simp only [setListening, hs, hf]
    cases ha : a.isOk with
    | true => exact .inl ⟨rfl, { ht with slot := ht.slot.trans hs.symm }⟩
    | false =>
      have hd : Unheard { s.record (.call (.dispatch x (.ofLevel level) a)) with
          pending := s.pending.setListening level, slot := none } t.vacate :=
        { ht with slot := rfl }
      exact .inr ⟨rfl, hd.trans (unheard_submit _),
        fun hs => mem_inbox_submit (s := t.vacate) (ho hs) _⟩

/-- So whatever a caller tells is deferred, accepted or refused. -/
theorem told_tell (host : Host W) (s : System W) (e : LifecycleEvent) :
    Told s e (s.tell host e) := by
  unfold tell
  split
  · exact .untold
  have hleave : ∀ u : System W, Unheard u (u.leave 1) := fun u =>
    { Unheard.refl u with }
  cases hs : s.slot with
  | none =>
    have h := unheard_convey_of_empty (s := (s.record (.told e none)).enter) host e hs
    exact .deferred hs { h.trans (hleave _) with }
  | some x =>
    obtain ⟨a, ⟨ha, h⟩ | ⟨ha, h, hcheck⟩⟩ :=
      convey_of_session (s := (s.record (.told e (some x))).enter) host e hs
    · exact .accepted hs ha { h.trans (hleave _) with }
    · exact .refused hs ha { h.trans (hleave _) with } hcheck

end System

end Supervision
