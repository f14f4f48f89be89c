import Supervision.Proofs.History
import Supervision.Proofs.Publication

/-!
# What becomes of the events

A caller's event is accepted by the session in the slot, or it waits; what waits is replayed to
the next session, and is accepted there, dropped, or waits again. `Ledger` accounts for the
events by what the journal says of calls, deliveries and drops: an event is *outstanding* while
it waits or stands in what is left of a replay plan, and it is so from the call that left it
waiting until a replay is done with it.

The lemmas of `Ledger` take it over one fact, or over one change of the queue.
`Replaying.of_replayed` takes it over an item of a replay, `Accounted.of_move` over a move, and
so it holds between the steps of every run (`events_are_accounted_for`).
-/

namespace Supervision

/-! ## What the journal says of a kind -/

namespace Fact

/-- A caller told the extension an event of kind `k`. -/
def isCall (k : EventKind) : Fact → Bool
  | .told e _ => e.kind? == some k
  | _ => false

/-- A session accepted an event of kind `k`. -/
def isDelivery (k : EventKind) : Fact → Bool
  | .call (.dispatch _ e (.ok _)) => e.kind? == some k
  | _ => false

/-- The kind of the pending event that a replay dropped. -/
def dropped? : Fact → Option EventKind
  | .note (.dropping _ k) => some k
  | _ => none

/-- The event that a caller's call left waiting: no session was there, or it refused. -/
def deferred? (older : Journal) : Fact → Option LifecycleEvent
  | .told e none => some e
  | .call (.dispatch _ e (.error _)) => if older.callerSpoke then some e else none
  | _ => none

/-- A caller's call left an event of kind `k` waiting. -/
def Defers (k : EventKind) (f : Fact) (older : Journal) : Prop :=
  (f.deferred? older).bind LifecycleEvent.kind? = some k

/-- A replay had an event of kind `k` accepted, or dropped it. -/
def Settles (k : EventKind) (f : Fact) (older : Journal) : Prop :=
  f.isDelivery k = true ∧ older.callerSpoke = false ∨ f.dropped? = some k

/-- A click that a replay sends is the click `t?`. -/
def Resends (t? : Option ClickTarget) (f : Fact) (older : Journal) : Prop :=
  ∀ x t a, f = .call (.dispatch x (.click t) a) → older.callerSpoke = false → t? = some t

variable {f : Fact} {older : Journal}

theorem isCall_eq_false (h : f.isEventful = false) (k : EventKind) : f.isCall k = false := by
  unfold isCall
  split
  · cases h
  · rfl

theorem isDelivery_eq_false (h : f.isEventful = false) (k : EventKind) :
    f.isDelivery k = false := by
  unfold isDelivery
  split
  · cases h
  · rfl

theorem dropped?_eq_none (h : f.isEventful = false) : f.dropped? = none := by
  unfold dropped?
  split
  · cases h
  · rfl

theorem deferred?_eq_none (h : f.isEventful = false) : f.deferred? older = none := by
  unfold deferred?
  split
  · cases h
  · cases h
  · rfl

end Fact

/-- The target of the last click that was deferred. -/
def Journal.lastClick : Journal → Option ClickTarget
  | [] => none
  | r :: older => ((r.fact.deferred? older).bind LifecycleEvent.target?).or (lastClick older)

theorem ite_eq_toNat (b : Bool) : (if b = true then 1 else 0) = b.toNat := by
  cases b <;> rfl

namespace Replay

/-- The kind of the pending event that an item is about. -/
def Item.kind? : Item → Option EventKind
  | .send e => e.kind?
  | .discard k => some k

/-- The item about the click is about the click, whether it is sent or discarded. -/
theorem kind?_click (pending : Snapshot) (listening : Bool) :
    (click pending listening).kind? = some .click := by
  unfold click
  split <;> rfl

theorem kind?_unlock (listening : Bool) : (unlock listening).kind? = some .unlockComplete := by
  cases listening <;> rfl

/-- The plan sees to each pending event once. -/
theorem countP_plan (pending : Snapshot) (listening : Bool) (k : EventKind) :
    (plan pending listening).countP (·.kind? == some k) = (pending.contains k).toNat := by
  have h : ∀ (b : Bool) (i : Item), (if b then [i] else []).countP (·.kind? == some k) =
      if b ∧ i.kind? = some k then 1 else 0 := by
    intro b i
    cases b <;> simp
  simp only [plan, List.countP_append, h, kind?_click, kind?_unlock]
  cases k <;> simp [Item.kind?, LifecycleEvent.kind?, ite_eq_toNat]

/-- The click that the plan sends is the pending one. -/
theorem pending_of_click_mem_plan {pending : Snapshot} {listening : Bool} {t : ClickTarget}
    (h : .send (.click t) ∈ plan pending listening) :
    pending.contains .click = true ∧ pending.stored = some t := by
  have hmem : ∀ (b : Bool) (i : Item), .send (.click t) ∈ (if b then [i] else []) →
      b = true ∧ i = .send (.click t) := by
    intro b i hi
    cases b <;> simp_all
  have hunlock : unlock listening ≠ .send (.click t) := by
    cases listening <;> simp [unlock]
  simp only [plan, List.mem_append, or_assoc] at h
  rcases h with h | h | h | h | h | h <;> obtain ⟨hb, hi⟩ := hmem _ _ h
  · cases hi
  · cases hi
  · refine ⟨hb, ?_⟩
    unfold click at hi
    split at hi
    · rename_i t' ht
      obtain rfl : t' = t := by simpa using hi
      simpa [Snapshot.clickTarget?, hb] using ht
    · cases hi
  · exact absurd hi hunlock
  · cases hi
  · cases hi

end Replay

/-! ## The ledger -/

/-- How many events of kind `k` are waiting, or to be replayed by what is left of a plan. -/
def outstanding (items : List Replay.Item) (p : Pending) (k : EventKind) : Nat :=
  (p.contains k).toNat + items.countP (·.kind? == some k)

/-- How the events that wait, and those still to be replayed by what is left of a plan, are
accounted for by the journal. -/
structure Ledger (items : List Replay.Item) (dropped : Nat) (p : Pending) (j : Journal) :
    Prop where
  single : ∀ k, outstanding items p k ≤ 1
  owed : ∀ k, outstanding items p k = 1 ↔ j.Since (Fact.Defers k) (Fact.Settles k)
  balance : ∀ k, j.countP (·.fact.isDelivery k) + j.countP (·.fact.dropped? == some k) +
    outstanding items p k ≤ j.countP (·.fact.isCall k)
  target : p.contains .click = true → ∃ t, p.target = some t ∧ j.lastClick = some t
  due : ∀ t, .send (.click t) ∈ items → j.lastClick = some t
  resent : j.Always fun f older => f.Resends older.lastClick older
  dropped : dropped = j.countP (·.fact.dropped?.isSome)

namespace Ledger

variable {items : List Replay.Item} {dropped : Nat} {p : Pending} {j : Journal} {r : Record}

/-- Before anything happened there is nothing to account for. -/
theorem empty : Ledger [] 0 {} [] where
  single _ := Nat.zero_le 1
  owed _ := iff_of_false Nat.zero_ne_one Journal.not_since_nil
  balance _ := Nat.le_refl 0
  target := nofun
  due := nofun
  resent := Journal.always_nil
  dropped := rfl

/-- A fact that says nothing of an event is not accounted for. -/
theorem skip (h : Ledger items dropped p j) (hcall : ∀ k, r.fact.isCall k = false)
    (hdelivery : ∀ k, r.fact.isDelivery k = false) (hdropped : r.fact.dropped? = none)
    (hdeferred : r.fact.deferred? j = none) (hresent : r.fact.Resends j.lastClick j) :
    Ledger items dropped p (r :: j) where
  single := h.single
  owed k := by
    rw [h.owed, Journal.since_cons]
    simp [Fact.Defers, Fact.Settles, hdeferred, hdelivery, hdropped]
  balance k := by simpa [List.countP_cons, hcall, hdelivery, hdropped] using h.balance k
  target hp := by simpa [Journal.lastClick, hdeferred] using h.target hp
  due t ht := by simpa [Journal.lastClick, hdeferred] using h.due t ht
  resent := Journal.always_cons.2 ⟨hresent, h.resent⟩
  dropped := by simpa [List.countP_cons, hdropped] using h.dropped

/-- Uneventful facts leave the ledger as it is. -/
theorem of_growsBy {j' : Journal} (h : Ledger items dropped p j)
    (hj : j.GrowsBy (·.isEventful = false) j') : Ledger items dropped p j' := by
  refine hj.induct h fun r j hr h => ?_
  refine h.skip (Fact.isCall_eq_false hr) (Fact.isDelivery_eq_false hr)
    (Fact.dropped?_eq_none hr) (Fact.deferred?_eq_none hr) fun x t a hf => ?_
  rw [hf] at hr
  cases hr

/-- The listening level is not accounted for. -/
theorem of_eq {p' : Pending} (h : Ledger items dropped p j) (hkinds : p'.kinds = p.kinds)
    (htarget : p'.target = p.target) : Ledger items dropped p' j := by
  have hc : p'.contains = p.contains := by
    funext k
    rw [Pending.contains, hkinds]
    rfl
  have ho : outstanding items p' = outstanding items p := by
    funext k
    rw [outstanding, hc]
    rfl
  exact { h with
    single := ho ▸ h.single
    owed := ho ▸ h.owed
    balance := ho ▸ h.balance
    target := by
      rw [hc, htarget]
      exact h.target }

/-- An event that a caller's call leaves waiting is outstanding. -/
theorem defer {j' : Journal} {e : LifecycleEvent} (h : Ledger [] dropped p j)
    (howed : ∀ k, j'.Since (Fact.Defers k) (Fact.Settles k) ↔
      e.kind? = some k ∨ j.Since (Fact.Defers k) (Fact.Settles k))
    (hcalls : ∀ k, j'.countP (·.fact.isCall k) =
      j.countP (·.fact.isCall k) + if e.kind? = some k then 1 else 0)
    (hdeliveries : ∀ k, j'.countP (·.fact.isDelivery k) = j.countP (·.fact.isDelivery k))
    (hdropped : ∀ q : Option EventKind → Bool, q none = false →
      j'.countP (q ·.fact.dropped?) = j.countP (q ·.fact.dropped?))
    (hclick : j'.lastClick = e.target?.or j.lastClick)
    (hresent : j'.Always fun f older => f.Resends older.lastClick older) :
    Ledger [] dropped ((p.heed e).defer e) j' where
  single k := by simpa [outstanding] using Bool.toNat_le _
  owed k := by
    have hk := h.owed k
    rw [howed]
    by_cases he : e.kind? = some k
    · simp [outstanding, Pending.contains_defer, he]
    · simpa [outstanding, Pending.contains_defer, he] using hk
  balance k := by
    have hk := h.balance k
    have hb := Bool.toNat_le (p.contains k)
    rw [hcalls, hdeliveries, hdropped (· == some k) rfl]
    by_cases he : e.kind? = some k
    · simp [outstanding, Pending.contains_defer, he] at hk ⊢
      omega
    · simpa [outstanding, Pending.contains_defer, he, beq_eq_false_iff_ne.2 he] using hk
  target hp := by
    rw [hclick]
    cases e with
    | click t => exact ⟨t, rfl, rfl⟩
    | _ => exact h.target hp
  due t ht := by cases ht
  resent := hresent
  dropped := by
    rw [hdropped (·.isSome) rfl]
    exact h.dropped

/-- What is told while no session is there waits. -/
theorem deferred (h : Ledger [] dropped p j) (time : Nat) (e : LifecycleEvent) :
    Ledger [] dropped ((p.heed e).defer e) (⟨time, .told e none⟩ :: j) := by
  refine h.defer (fun k => ?_) (fun k => ?_) (fun k => ?_) (fun q hq => ?_) rfl ?_
  · simp [Journal.since_cons, Fact.Defers, Fact.Settles, Fact.deferred?, Fact.isDelivery,
      Fact.dropped?]
  · simp [List.countP_cons, Fact.isCall]
  · simp [Fact.isDelivery]
  · simp [Fact.dropped?, hq]
  · exact Journal.always_cons.2 ⟨nofun, h.resent⟩

variable {x : Session} {e : LifecycleEvent}

/-- So does what the session refuses. -/
theorem refused (h : Ledger [] dropped p j) (time time' : Nat) (error : Error) :
    Ledger [] dropped ((p.heed e).defer e)
      (⟨time', .call (.dispatch x e (.error error))⟩ :: ⟨time, .told e (some x)⟩ :: j) := by
  refine h.defer (fun k => ?_) (fun k => ?_) (fun k => ?_) (fun q hq => ?_) rfl ?_
  · simp [Journal.since_cons, Fact.Defers, Fact.Settles, Fact.deferred?, Fact.isDelivery,
      Fact.dropped?, Journal.callerSpoke]
  · simp [List.countP_cons, Fact.isCall]
  · simp [Fact.isDelivery]
  · simp [Fact.dropped?, hq]
  · exact Journal.always_cons.2 ⟨nofun, Journal.always_cons.2 ⟨nofun, h.resent⟩⟩

/-- A caller's event that is accepted at once is delivered, and never outstanding. -/
theorem accepted (h : Ledger [] dropped p j) (time time' : Nat) :
    Ledger [] dropped (p.heed e)
      (⟨time', .call (.dispatch x e (.ok ()))⟩ :: ⟨time, .told e (some x)⟩ :: j) := by
  refine of_eq (p := p) ?_ (by simp) (by simp)
  exact {
    single := h.single
    owed := fun k => by
      rw [h.owed]
      simp [Journal.since_cons, Fact.Defers, Fact.Settles, Fact.deferred?, Fact.isDelivery,
        Fact.dropped?, Journal.callerSpoke]
    balance := fun k => by
      have hk := h.balance k
      have hcalls : List.countP (·.fact.isCall k) (⟨time', .call (.dispatch x e (.ok ()))⟩ ::
          ⟨time, .told e (some x)⟩ :: j) =
          j.countP (·.fact.isCall k) + if e.kind? = some k then 1 else 0 := by
        simp [List.countP_cons, Fact.isCall]
      have hdeliveries : List.countP (·.fact.isDelivery k)
          (⟨time', .call (.dispatch x e (.ok ()))⟩ :: ⟨time, .told e (some x)⟩ :: j) =
          j.countP (·.fact.isDelivery k) + if e.kind? = some k then 1 else 0 := by
        simp [List.countP_cons, Fact.isDelivery]
      have hdrops : List.countP (·.fact.dropped? == some k)
          (⟨time', .call (.dispatch x e (.ok ()))⟩ :: ⟨time, .told e (some x)⟩ :: j) =
          j.countP (·.fact.dropped? == some k) := by
        simp [Fact.dropped?]
      omega
    target := h.target
    due := h.due
    resent := Journal.always_cons.2 ⟨nofun, Journal.always_cons.2 ⟨nofun, h.resent⟩⟩
    dropped := by simpa [Fact.dropped?] using h.dropped }

/-! ### Replays -/

/-- Drawing up a plan moves what waits into the plan. -/
theorem drained (h : Ledger [] dropped p j) :
    Ledger (Replay.plan p.snapshot p.listening) dropped p.drained j := by
  have ho : outstanding (Replay.plan p.snapshot p.listening) p.drained = outstanding [] p := by
    funext k
    simp [outstanding, Replay.countP_plan]
    rfl
  exact {
    single := ho ▸ h.single
    owed := ho ▸ h.owed
    balance := ho ▸ h.balance
    target := nofun
    due := fun t ht => by
      obtain ⟨hc, hstored⟩ := Replay.pending_of_click_mem_plan ht
      obtain ⟨t', htarget, hlast⟩ := h.target hc
      rw [hlast, ← htarget]
      exact hstored
    resent := h.resent
    dropped := h.dropped }

/-- An event that is not sent, or refused, waits again. -/
theorem requeue (h : Ledger (.send e :: items) dropped p j) :
    Ledger items dropped (p.defer e) j := by
  have ho : outstanding items (p.defer e) = outstanding (.send e :: items) p := by
    funext k
    have hk := h.single k
    by_cases he : e.kind? = some k
    · simp [outstanding, Pending.contains_defer, Replay.Item.kind?, he] at hk ⊢
      omega
    · simp [outstanding, Pending.contains_defer, Replay.Item.kind?, beq_eq_false_iff_ne.2 he]
  exact {
    single := ho ▸ h.single
    owed := ho ▸ h.owed
    balance := ho ▸ h.balance
    target := fun hp => by
      cases e with
      | click t => exact ⟨t, rfl, h.due t (List.mem_cons_self ..)⟩
      | _ => exact h.target hp
    due := fun t ht => h.due t (List.mem_cons_of_mem _ ht)
    resent := h.resent
    dropped := h.dropped }

/-- What a replay is done with is not outstanding any more. -/
theorem settle {i : Replay.Item} (h : Ledger (i :: items) dropped p j)
    (hcall : ∀ k, r.fact.isCall k = false) (hdeferred : r.fact.deferred? j = none)
    (hsettles : ∀ k, r.fact.Settles k j ↔ i.kind? = some k)
    (hcount : ∀ k, (r.fact.isDelivery k).toNat + (r.fact.dropped? == some k).toNat =
      (i.kind? == some k).toNat)
    (hresent : r.fact.Resends j.lastClick j) :
    Ledger items (dropped + r.fact.dropped?.isSome.toNat) p (r :: j) where
  single k := by
    have hk := h.single k
    simp only [outstanding, List.countP_cons] at hk ⊢
    omega
  owed k := by
    have hk := h.owed k
    have hs := h.single k
    simp only [outstanding, List.countP_cons, Journal.since_cons, Fact.Defers, hdeferred,
      hsettles] at hk hs ⊢
    by_cases he : i.kind? = some k <;> simp [he] at hk hs ⊢
    · omega
    · exact hk
  balance k := by
    have hk := h.balance k
    have hc := hcount k
    simp only [outstanding, List.countP_cons, hcall, ite_eq_toNat] at hk ⊢
    omega
  target hp := by simpa [Journal.lastClick, hdeferred] using h.target hp
  due t ht := by
    simpa [Journal.lastClick, hdeferred] using h.due t (List.mem_cons_of_mem _ ht)
  resent := Journal.always_cons.2 ⟨hresent, h.resent⟩
  dropped := by
    rw [h.dropped, List.countP_cons]
    cases r.fact.dropped? <;> rfl

end Ledger

/-! ## Runs -/

variable {W : Type} {host : Host W} {s t : System W}

theorem Ledger.of_unheard {items : List Replay.Item} {dropped : Nat}
    (h : Ledger items dropped s.pending s.journal) (ht : Unheard s t) :
    Ledger items dropped t.pending t.journal := by
  rw [ht.pending]
  exact h.of_growsBy ht.journal.uneventful

/-- In the middle of a replay, what is left of the plan is outstanding too, and what is sent
is the replay's. -/
structure Replaying (dropped : Nat) (items : List Replay.Item) (s : System W)
    (o : System.Outcome) : Prop where
  ledger : Ledger items (dropped + o.dropped) s.pending s.journal
  alone : s.journal.callerSpoke = false

namespace Replaying

variable {x : Session} {o o' : System.Outcome} {i : Replay.Item} {items : List Replay.Item}
  {dropped : Nat} {e : LifecycleEvent} {u : System W}

theorem of_unheard (h : Replaying dropped items s o) (ht : Unheard s t) :
    Replaying dropped items t o :=
  ⟨h.ledger.of_unheard ht, Journal.callerSpoke_of_growsBy ht.journal h.alone⟩

/-- To lower the level for a removal concerns no kind. -/
theorem quell (h : Replaying dropped items s o) (e : LifecycleEvent) :
    Replaying dropped items { s with pending := s.pending.quell e } o :=
  ⟨h.ledger.of_eq (by simp) (by simp), h.alone⟩

/-- Each item of a replay is settled, or is requeued. -/
theorem of_replayed (hs : Replaying dropped (i :: items) s o) (h : Replayed x s o i t o') :
    Replaying dropped items t o' := by
  cases h with
  | discarded k =>
    refine ⟨hs.ledger.settle (r := ⟨s.clock, .note (.dropping x.token k)⟩) (fun _ => rfl) rfl
      (fun k' => ?_) (fun k' => ?_) (fun x t a hf => ?_), rfl⟩
    · simp [Fact.Settles, Fact.isDelivery, Fact.dropped?, Replay.Item.kind?]
    · simp [Fact.isDelivery, Fact.dropped?, Replay.Item.kind?]
    · cases hf
  | @kept e _ _ ht =>
    have hq := hs.quell e
    exact of_unheard (s := { s with pending := (s.pending.quell e).defer e })
      ⟨hq.ledger.requeue, hq.alone⟩ ht
  | @accepted e u _ a _ hu ha ht =>
    have hu' := (hs.quell e).of_unheard hu
    cases a with
    | error => cases ha
    | ok =>
      refine of_unheard (s := u.record (.call (.dispatch x e (.ok ())))) ⟨?_, rfl⟩ ht
      refine hu'.ledger.settle (r := ⟨u.clock, .call (.dispatch x e (.ok ()))⟩)
        (fun _ => rfl) rfl (fun k => ?_) (fun k => ?_) fun x t a hf _ => ?_
      · simp [Fact.Settles, Fact.isDelivery, Fact.dropped?, Replay.Item.kind?, hu'.alone]
      · simp [Fact.isDelivery, Fact.dropped?, Replay.Item.kind?]
      · cases hf
        exact hu'.ledger.due t (List.mem_cons_self ..)
  | @refused e u _ a _ hu ha ht =>
    have hu' := (hs.quell e).of_unheard hu
    cases a with
    | ok => cases ha
    | error error =>
      refine of_unheard (s := { u.record (.call (.dispatch x e (.error error))) with
        pending := u.pending.defer e }) ⟨?_, rfl⟩ ht
      refine hu'.ledger.requeue.skip (r := ⟨u.clock, .call (.dispatch x e (.error error))⟩)
        (fun _ => rfl) (fun _ => rfl) rfl (by simp [Fact.deferred?, hu'.alone]) fun x t a hf _ => ?_
      cases hf
      exact hu'.ledger.due t (List.mem_cons_self ..)

end Replaying

/-- Between steps only what waits is outstanding. -/
def Accounted (s : System W) : Prop := Ledger [] s.loop.dropped s.pending s.journal

namespace Accounted

theorem of_still (hs : Accounted s) (h : Still s t) : Accounted t := by
  unfold Accounted
  rw [h.dropped, h.pending]
  exact Ledger.of_growsBy hs h.journal.uneventful

/-- What a caller tells is accepted or waits. -/
theorem of_told {e : LifecycleEvent} (hs : Accounted s) (h : Told s e t) : Accounted t := by
  unfold Accounted
  rw [h.aside.loop]
  cases h with
  | untold => exact hs
  | deferred _ ht => exact Ledger.of_unheard (Ledger.deferred hs s.clock e) ht
  | @accepted _ x a _ ha ht =>
    cases a with
    | ok => exact Ledger.of_unheard (Ledger.accepted hs s.clock s.clock) ht
    | error => cases ha
  | @refused _ x a _ ha ht =>
    cases a with
    | ok => cases ha
    | error error => exact Ledger.of_unheard (Ledger.refused hs s.clock s.clock error) ht

theorem of_meanwhile (hs : Accounted s) (h : Meanwhile s t) : Accounted t :=
  h.induct hs (fun _ _ h hs => hs.of_still h) fun _ _ _ h hs => hs.of_told h

theorem of_lost (hs : Accounted s) (h : Lost s t) : Accounted t := by
  unfold Accounted
  rw [h.dropped, h.pending]
  exact Ledger.of_growsBy hs h.journal

/-- A replay starts with all that waits and ends with what it requeued. -/
theorem of_replay {x : Session} {o : System.Outcome} (hs : Accounted s)
    (hr : s.replay host x = (t, o)) :
    Accounted { t with loop.dropped := t.loop.dropped + o.dropped } := by
  have h : Replaying s.loop.dropped [] t o :=
    System.replay_induct (motive := Replaying s.loop.dropped)
      ⟨(Ledger.drained hs).skip (fun _ => rfl) (fun _ => rfl) rfl rfl nofun, rfl⟩
      (fun h hs => hs.of_replayed h) hr
  unfold Accounted
  rw [(System.aside_of_replay hr).loop]
  exact h.ledger

/-- Whatever happens to the events, they are accounted for. -/
theorem of_move (hs : Accounted s) (h : Move host s t) : Accounted t := by
  cases h with
  | still h => exact hs.of_still h
  | told h => exact hs.of_told h
  | lost h => exact hs.of_lost h
  | sought _ hu =>
    have h := hs.of_meanwhile hu
    exact h
  | @made u x _ _ _ hr =>
    have h := of_replay (s := { s with loop.session := some x, loop.state := .connected }) hs hr
    exact h
  | @refused _ _ x _ _ _ hr _ hl =>
    have h := of_replay (s := { s with loop.session := some x, loop.state := .connected }) hs hr
    exact h.of_lost hl

end Accounted

/-- In each reachable state, the events are accounted for. -/
theorem Reachable.accounted (hs : Reachable host s) : Accounted s := by
  refine hs.induct (fun x c w => ?_) (fun _ _ _ h => h) fun _ _ h hs => hs.of_move h
  exact Ledger.empty.of_growsBy (.cons rfl)

/-- No event that a caller tells the extension is lost, and none is delivered twice. An event
waits exactly if a call left one of its kind waiting, and no replay had one accepted or dropped
it since; deliveries, drops and what waits never exceed the calls; the click that waits, and
each that a replay sends, is the last one that a call left waiting; and the published status
counts the drops. -/
theorem events_are_accounted_for (hs : Reachable host s) :
    (∀ k, s.pending.contains k = true ↔ s.journal.Since (Fact.Defers k) (Fact.Settles k)) ∧
    (∀ k, s.journal.countP (·.fact.isDelivery k) + s.journal.countP (·.fact.dropped? == some k) +
      (s.pending.contains k).toNat ≤ s.journal.countP (·.fact.isCall k)) ∧
    (s.pending.contains .click = true →
      ∃ t, s.pending.target = some t ∧ s.journal.lastClick = some t) ∧
    s.journal.Always (fun f older => f.Resends older.lastClick older) ∧
    s.status.droppedEvents = s.journal.countP (·.fact.dropped?.isSome) := by
  have h := hs.accounted
  refine ⟨fun k => ?_, h.balance, h.target, h.resent, ?_⟩
  · rw [← h.owed k]
    simp [outstanding]
  · rw [hs.status_eq]
    exact h.dropped

/-- The connected supervisor, after its session accepted a click and refused another. -/
def Scenario.clicked : System World :=
  connected.run Scenario.host
    [.act (.tell (.click ⟨7⟩)), .drift {}, .act (.tell (.click ⟨9⟩))]

theorem refused_click_is_accounted_for :
    Scenario.clicked.pending.target = some ⟨9⟩ ∧
    Scenario.clicked.journal.lastClick = some ⟨9⟩ ∧
    Scenario.clicked.journal.Since (Fact.Defers .click) (Fact.Settles .click) ∧
    Scenario.clicked.journal.countP (·.fact.isDelivery .click) = 1 ∧
    2 ≤ Scenario.clicked.journal.countP (·.fact.isCall .click) := by
  obtain ⟨howed, hbalance, htarget, -⟩ :=
    events_are_accounted_for (Scenario.reachable_connected.run _) (s := Scenario.clicked)
  have hwaits : Scenario.clicked.pending.contains .click = true := rfl
  have hone : Scenario.clicked.journal.countP (·.fact.isDelivery .click) = 1 := rfl
  obtain ⟨t, ht, hlast⟩ := htarget hwaits
  obtain rfl : ⟨9⟩ = t := Option.some.inj ht
  refine ⟨ht, hlast, (howed .click).1 hwaits, hone, ?_⟩
  have h := hbalance .click
  rw [hwaits, hone, Bool.toNat_true] at h
  omega

end Supervision
