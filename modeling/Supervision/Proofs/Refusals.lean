import Mathlib.Data.List.Nodup
import Supervision.Proofs.Resumption

/-!
# What a refusal puts back

The events of a replay have their places in its order, and each plan follows them
(`Replay.pairwise_plan`). So the event that a session refuses cuts a plan in two: what comes before
it was accepted, and what does not should wait for the next session, a click with its target
(`PutBack`).

But the plan was drawn up before the first event was sent, and it is gone through to its end. What
it drops is dropped, also behind the refused event and although no session was there any more to be
spared it (`Pending.Drops`). The rest waits, and so the queue is as it should be if and only if
nothing that the plan drops stands behind the refused event (`refused_replay_puts_back`).
-/

namespace Supervision

/-! ## The order of a replay -/

/-- The place in a replay of the events of a kind. -/
def EventKind.place : EventKind → Nat
  | .added => 0
  | .click => 2
  | .unlockComplete => 3
  | .removed => 5

/-- The place of an event in a replay. -/
def LifecycleEvent.place : LifecycleEvent → Nat
  | .added => 0
  | .startListening => 1
  | .click _ => 2
  | .unlockComplete => 3
  | .stopListening => 4
  | .removed => 5

theorem LifecycleEvent.place_eq {e : LifecycleEvent} {k : EventKind} (h : e.kind? = some k) :
    e.place = k.place := by
  cases e <;> cases h <;> rfl

/-- A replay of the queue drops the event of this kind: it is one that only a listening extension is
told, and the level is off, or it is a click without a target. -/
def Pending.Drops (p : Pending) (k : EventKind) : Prop :=
  p.contains k = true ∧
    (k = .click ∧ (p.listening = false ∨ p.target = none) ∨
      k = .unlockComplete ∧ p.listening = false)

namespace Replay

/-- The place of what an item is about. -/
def Item.place : Item → Nat
  | .send e => e.place
  | .discard k => k.place

theorem place_click (pending : Snapshot) (listening : Bool) :
    (click pending listening).place = 2 := by
  unfold click
  split <;> rfl

theorem place_unlock (listening : Bool) : (unlock listening).place = 3 := by
  cases listening <;> rfl

/-- The places of a plan are places of the order, each once. -/
theorem map_place_plan_sublist (pending : Snapshot) (listening : Bool) :
    ((plan pending listening).map Item.place).Sublist (List.range 6) := by
  have hitem (b : Bool) (i : Item) :
      ((if b then [i] else []).map Item.place).Sublist [i.place] := by
    cases b <;> simp
  have h := ((((hitem (pending.contains .added) (.send .added)).append
    (hitem listening (.send .startListening))).append
    (hitem (pending.contains .click) (click pending listening))).append
    (hitem (pending.contains .unlockComplete) (unlock listening))).append
    ((hitem (pending.contains .removed && listening) (.send .stopListening)).append
    (hitem (pending.contains .removed) (.send .removed)))
  rw [place_click, place_unlock, ← List.append_assoc] at h
  simp only [plan, List.map_append]
  exact h

/-- A plan follows the order of a replay. -/
theorem pairwise_plan (pending : Snapshot) (listening : Bool) :
    (plan pending listening).Pairwise fun i j => i.place < j.place :=
  List.pairwise_map.1 (List.pairwise_lt_range.sublist (map_place_plan_sublist pending listening))

/-- No two items of a plan have the same place. -/
theorem nodup_places (pending : Snapshot) (listening : Bool) :
    ((plan pending listening).map Item.place).Nodup :=
  List.nodup_range.sublist (map_place_plan_sublist pending listening)

end Replay

namespace Pending

variable {p : Pending} {k : EventKind} {done rest : List LifecycleEvent} {e : LifecycleEvent}

/-- What a replay drops is what its plan discards. -/
theorem discard_mem_plan_iff (p : Pending) (k : EventKind) :
    .discard k ∈ Replay.plan p.snapshot p.listening ↔ p.Drops k := by
  have hclick : p.contains .click = true → (Replay.click p.snapshot p.listening = .discard k ↔
      k = .click ∧ (p.listening = false ∨ p.target = none)) := by
    intro hc
    have htarget : p.snapshot.clickTarget? = p.target := if_pos hc
    unfold Replay.click
    rw [htarget]
    cases p.target <;> cases p.listening <;> simp [eq_comm]
  have hunlock : Replay.unlock p.listening = .discard k ↔
      k = .unlockComplete ∧ p.listening = false := by
    cases p.listening <;> simp [Replay.unlock, eq_comm]
  have hmem (b : Bool) (i : Replay.Item) : .discard k ∈ (if b then [i] else []) ↔
      b = true ∧ i = .discard k := by
    cases b <;> simp [eq_comm]
  simp only [Replay.plan, List.mem_append, hmem, contains_snapshot, hunlock, reduceCtorEq,
    and_false, false_or, or_false, and_congr_right_iff.2 hclick]
  constructor
  · rintro (⟨hc, rfl, h⟩ | ⟨hc, rfl, h⟩)
    · exact ⟨hc, .inl ⟨rfl, h⟩⟩
    · exact ⟨hc, .inr ⟨rfl, h⟩⟩
  · rintro ⟨hc, ⟨rfl, h⟩ | ⟨rfl, h⟩⟩
    · exact .inl ⟨hc, rfl, h⟩
    · exact .inr ⟨hc, rfl, h⟩

theorem mem_script_iff (p : Pending) (e : LifecycleEvent) :
    e ∈ p.script ↔ .send e ∈ Replay.plan p.snapshot p.listening := by
  rw [script, List.mem_filterMap]
  constructor
  · rintro ⟨i, hi, he⟩
    cases i with
    | send e' =>
      obtain rfl := Option.some.inj he
      exact hi
    | discard k => cases he
  · exact fun h => ⟨.send e, h, rfl⟩

/-- A click of the script has the target that is stored. -/
theorem eq_click_of_mem_script (he : e ∈ p.script) (hk : e.kind? = some .click) :
    ∃ target, e = .click target ∧ p.target = some target := by
  cases e with
  | click target =>
    exact ⟨target, rfl, (Replay.pending_of_click_mem_plan ((mem_script_iff p _).1 he)).2⟩
  | _ => cases hk

/-- The plan has one item for each event that waits. -/
theorem exists_mem_plan_iff (p : Pending) (k : EventKind) :
    (∃ i ∈ Replay.plan p.snapshot p.listening, i.kind? = some k) ↔ p.contains k = true := by
  have hcount := Replay.countP_plan p.snapshot p.listening k
  have hpos : 0 < (p.contains k).toNat ↔ p.contains k = true := by cases p.contains k <;> simp
  rw [contains_snapshot] at hcount
  rw [← hpos, ← hcount, List.countP_pos_iff]
  simp

/-- A replay sends what waits, unless it drops it. -/
theorem exists_mem_script_iff (p : Pending) (k : EventKind) :
    (∃ e ∈ p.script, e.kind? = some k) ↔ p.contains k = true ∧ ¬p.Drops k := by
  rw [← exists_mem_plan_iff, ← discard_mem_plan_iff]
  constructor
  · rintro ⟨e, he, hk⟩
    have hsend := (mem_script_iff p e).1 he
    refine ⟨⟨.send e, hsend, hk⟩, fun hdiscard => ?_⟩
    -- two items of one kind have one place, so they would be the same
    have hnodup := Replay.nodup_places p.snapshot p.listening
    cases List.inj_on_of_nodup_map hnodup hsend hdiscard (LifecycleEvent.place_eq hk)
  · rintro ⟨⟨i, hi, hk⟩, hdiscard⟩
    cases i with
    | send e => exact ⟨e, (mem_script_iff p e).2 hi, hk⟩
    | discard j =>
      obtain rfl := Option.some.inj hk
      exact absurd hi hdiscard

/-- The events of a script follow the order of a replay. -/
theorem pairwise_script (p : Pending) : p.script.Pairwise fun e f => e.place < f.place := by
  refine List.Pairwise.filterMap _ ?_ (Replay.pairwise_plan p.snapshot p.listening)
  rintro (e | k) (f | k') hplace e' he f' hf <;> cases he <;> cases hf
  exact hplace

/-- What does not come before an event of the script is that event and what follows it. -/
theorem exists_mem_rest_iff (h : p.script = done ++ e :: rest) (k : EventKind) :
    (∃ f ∈ e :: rest, f.kind? = some k) ↔
      p.contains k = true ∧ ¬p.Drops k ∧ e.place ≤ k.place := by
  have hpairwise := pairwise_script p
  rw [h, List.pairwise_append, List.pairwise_cons] at hpairwise
  obtain ⟨-, ⟨hbehind, -⟩, hbefore⟩ := hpairwise
  rw [← and_assoc, ← exists_mem_script_iff, h]
  constructor
  · rintro ⟨f, hf, hk⟩
    refine ⟨⟨f, List.mem_append_right _ hf, hk⟩, ?_⟩
    rw [← LifecycleEvent.place_eq hk]
    rcases List.mem_cons.1 hf with rfl | hf
    · exact Nat.le_refl _
    · exact Nat.le_of_lt (hbehind f hf)
  · rintro ⟨⟨f, hf, hk⟩, hplace⟩
    rw [← LifecycleEvent.place_eq hk] at hplace
    rcases List.mem_append.1 hf with hf | hf
    · exact absurd hplace (Nat.not_le.2 (hbefore f hf e List.mem_cons_self))
    · exact ⟨f, hf, hk⟩

end Pending

/-! ## Drops -/

/-- The kinds of the pending events that replays dropped, in order. -/
def Journal.drops (j : Journal) : List EventKind := j.chronicle Fact.dropped?

theorem Journal.drops_cons {r : Record} {j : Journal} :
    drops (r :: j) = j.drops ++ r.fact.dropped?.toList := chronicle_cons ..

theorem Journal.drops_of_growsBy {i j : Journal} (h : i.GrowsBy (·.isEventful = false) j) :
    j.drops = i.drops :=
  chronicle_of_growsBy h fun _ => Fact.dropped?_eq_none

variable {W : Type} {host : Host W} {s t u : System W} {x : Session} {o : System.Outcome}

/-- An item of a replay is sent, or kept for the next one, or dropped. -/
theorem Replayed.drops_eq {i : Replay.Item} {o' : System.Outcome} (h : Replayed x s o i t o') :
    t.journal.drops = s.journal.drops ++ i.discarded?.toList := by
  have quiet {v w : System W} (h : Unheard v w) : w.journal.drops = v.journal.drops :=
    Journal.drops_of_growsBy h.journal.uneventful
  have dispatch (v : System W) (e : LifecycleEvent) (a : Except Error Unit) :
      (v.record (.call (.dispatch x e a))).journal.drops = v.journal.drops :=
    Journal.drops_cons.trans (List.append_nil _)
  cases h with
  | discarded k => exact Journal.drops_cons
  | kept _ ht => exact (quiet ht).trans (List.append_nil _).symm
  | accepted _ hu _ ht =>
    exact ((quiet ht).trans (dispatch _ _ _)).trans ((quiet hu).trans (List.append_nil _).symm)
  | refused _ hu _ ht =>
    exact ((quiet ht).trans (dispatch _ _ _)).trans ((quiet hu).trans (List.append_nil _).symm)

/-- A replay drops what its plan discards, whether or not an event is refused. -/
theorem System.drops_of_replay (hr : s.replay host x = (t, o)) :
    t.journal.drops = s.journal.drops ++
      (Replay.plan s.pending.snapshot s.pending.listening).filterMap Replay.Item.discarded? := by
  have h := replay_induct (motive := fun items t _ => ∃ done,
    Replay.plan s.pending.snapshot s.pending.listening = done ++ items ∧
      t.journal.drops = s.journal.drops ++ done.filterMap Replay.Item.discarded?)
    ⟨[], rfl, ?_⟩ ?_ hr
  · obtain ⟨done, hdone, h⟩ := h
    rw [hdone, List.append_nil, h]
  · exact Journal.drops_cons
  · rintro i is u o v o' hi ⟨done, hdone, h⟩
    refine ⟨done ++ [i], by simp [hdone], ?_⟩
    rw [hi.drops_eq, h, List.filterMap_append, List.append_assoc]
    cases i <;> rfl

theorem Pending.mem_discarded_iff (p : Pending) (k : EventKind) :
    k ∈ (Replay.plan p.snapshot p.listening).filterMap Replay.Item.discarded? ↔ p.Drops k := by
  rw [← discard_mem_plan_iff, List.mem_filterMap]
  constructor
  · rintro ⟨i, hi, hk⟩
    cases i with
    | send e => cases hk
    | discard j =>
      obtain rfl := Option.some.inj hk
      exact hi
  · exact fun h => ⟨.discard k, h, rfl⟩

/-! ## Refused replays -/

/-- From the refused event `e` on, each event that was drained waits again, a click with its target,
and none was dropped. -/
structure PutBack (e : LifecycleEvent) (s t : System W) : Prop where
  kinds : ∀ k, t.pending.contains k = true ↔ s.pending.contains k = true ∧ e.place ≤ k.place
  target : t.pending.contains .click = true → t.pending.target = s.pending.target
  spared : ∃ dropped, t.journal.drops = s.journal.drops ++ dropped ∧
    ∀ k ∈ dropped, k.place < e.place

namespace Shelved

variable {done rest : List LifecycleEvent} {e : LifecycleEvent}
  (h : Shelved x (Replay.plan s.pending.snapshot s.pending.listening) s t o done (e :: rest))

include h

/-- What waits after a refusal is what does not come before the refused event, but for what is
dropped. -/
theorem contains_iff (k : EventKind) : t.pending.contains k = true ↔
    s.pending.contains k = true ∧ ¬s.pending.Drops k ∧ e.place ≤ k.place := by
  rw [h.waits.contains_kept, List.any_eq_true, ← Pending.exists_mem_rest_iff h.events]
  simp only [beq_iff_eq]

/-- A click that is put back has the target that it had. -/
theorem target_eq (hclick : t.pending.contains .click = true) :
    t.pending.target.isSome = true ∧ t.pending.target = s.pending.target := by
  obtain ⟨f, hf, hk⟩ :=
    (Pending.exists_mem_rest_iff h.events .click).2 ((h.contains_iff .click).1 hclick)
  have hscript : s.pending.script = done ++ e :: rest := h.events
  have hclicks (f : LifecycleEvent) (hf : f ∈ e :: rest) (hk : f.kind? = some .click) :=
    Pending.eq_click_of_mem_script (p := s.pending) (hscript ▸ List.mem_append_right _ hf) hk
  obtain ⟨target, -, hstored⟩ := hclicks f hf hk
  have honly : ∀ f ∈ e :: rest, f.kind? = some .click → f = .click target := by
    intro f hf hk
    obtain ⟨target', rfl, hstored'⟩ := hclicks f hf hk
    rw [Option.some.inj (hstored'.symm.trans hstored)]
  rw [h.waits.target_eq honly hclick, hstored]
  exact ⟨rfl, rfl⟩

/-- All is put back from the refused event on if and only if what is dropped comes before it. -/
theorem putBack_iff {dropped : List EventKind} (hdrops : t.journal.drops = s.journal.drops ++ dropped)
    (hdropped : ∀ k, k ∈ dropped ↔ s.pending.Drops k) :
    PutBack e s t ↔ ∀ k, s.pending.Drops k → k.place < e.place := by
  constructor
  · intro hback k hk
    refine Nat.lt_of_not_le fun hplace => ?_
    exact ((h.contains_iff k).1 ((hback.kinds k).2 ⟨hk.1, hplace⟩)).2.1 hk
  · intro hbefore
    refine ⟨fun k => ?_, fun hclick => (h.target_eq hclick).2, _, hdrops, fun k hk => ?_⟩
    · rw [h.contains_iff]
      exact ⟨fun hk => ⟨hk.1, hk.2.2⟩, fun hk => ⟨hk.1, fun hdrop =>
        Nat.not_le.2 (hbefore k hdrop) hk.2, hk.2⟩⟩
    · exact hbefore k ((hdropped k).1 hk)

end Shelved

/-- A session that refuses an event of its replay accepted those before it, and was sent none of
those behind it. Of the events that were drained, those wait again that do not come before the
refused one, a click with its target, but for what the replay drops; and it drops no less than if
nothing had been refused. So all is put back from the refused event on if and only if nothing that
is dropped stands behind it. -/
theorem refused_replay_puts_back (hr : s.replay host x = (t, o)) (ho : o.failed = true) :
    ∃ done e rest, s.pending.script = done ++ e :: rest ∧
      t.journal.sent = s.journal.sent ++ (done.map (·, true) ++ [(e, false)]).map (x, ·) ∧
      (∀ k, t.pending.contains k = true ↔
        s.pending.contains k = true ∧ ¬s.pending.Drops k ∧ e.place ≤ k.place) ∧
      (t.pending.contains .click = true →
        t.pending.target.isSome = true ∧ t.pending.target = s.pending.target) ∧
      (∃ dropped, t.journal.drops = s.journal.drops ++ dropped ∧
        ∀ k, k ∈ dropped ↔ s.pending.Drops k) ∧
      (PutBack e s t ↔ ∀ k, s.pending.Drops k → k.place < e.place) := by
  obtain ⟨done, kept, h⟩ := System.shelved_of_replay hr
  obtain ⟨e, rest, rfl⟩ := h.exists_refused ho
  have hdrops := System.drops_of_replay hr
  have hdropped := Pending.mem_discarded_iff s.pending
  exact ⟨done, e, rest, h.events, h.sent, h.contains_iff, h.target_eq, ⟨_, hdrops, hdropped⟩,
    h.putBack_iff hdrops hdropped⟩

/-- A supervisor that listens, with something of each kind waiting, and a transport that is about to
fail. -/
def Scenario.interrupted : System World :=
  (System.spawn ⟨⟨0⟩, ⟨"music"⟩, ⟨"player"⟩⟩ {} { transports := [{ budget := some 2 }] }).run
    Scenario.host
    [.act (.tell .startListening), .act (.tell .added), .act (.tell (.click ⟨7⟩)),
      .act (.tell .unlockComplete), .act (.tell .removed)]

theorem refused_click_is_put_back : ∃ t o,
    Scenario.interrupted.replay Scenario.host ⟨⟨1⟩, ⟨0⟩⟩ = (t, o) ∧ o.failed = true ∧
      PutBack (.click ⟨7⟩) Scenario.interrupted t := by
  refine ⟨_, _, rfl, rfl, ?_⟩
  obtain ⟨done, e, rest, -, hsent, -, -, -, hback⟩ := @refused_replay_puts_back Scenario.World
    Scenario.host Scenario.interrupted _ ⟨⟨1⟩, ⟨0⟩⟩ _ rfl rfl
  -- the last event that was sent is the refused one
  have hlast := congrArg List.getLast? hsent
  rw [List.map_append, ← List.append_assoc, List.map_singleton, List.getLast?_concat] at hlast
  obtain rfl : LifecycleEvent.click ⟨7⟩ = e := congrArg (·.2.1) (Option.some.inj hlast)
  refine hback.2 fun k hk => ?_
  rcases hk with ⟨-, ⟨-, hlevel | htarget⟩ | ⟨-, hlevel⟩⟩
  · cases hlevel
  · cases htarget
  · cases hlevel

/-- A supervisor that does not listen, told that it was added and of a click, and a transport that
is gone. -/
def Scenario.unheeding : System World :=
  (System.spawn ⟨⟨0⟩, ⟨"music"⟩, ⟨"player"⟩⟩ {} { transports := [{ alive := false }] }).run
    Scenario.host [.act (.tell .added), .act (.tell (.click ⟨7⟩))]

/-- The click stands behind the refused event, and is dropped. -/
theorem unheeded_click_is_lost : ∃ t o,
    Scenario.unheeding.replay Scenario.host ⟨⟨1⟩, ⟨0⟩⟩ = (t, o) ∧ o.failed = true ∧
      t.journal.sent = [(⟨⟨1⟩, ⟨0⟩⟩, .added, false)] ∧ o.dropped = 1 ∧
      ¬PutBack .added Scenario.unheeding t := by
  refine ⟨_, _, rfl, rfl, rfl, rfl, fun h => ?_⟩
  cases (h.kinds .click).2 ⟨rfl, by decide⟩

end Supervision
