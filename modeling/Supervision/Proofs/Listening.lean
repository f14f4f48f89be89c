import Supervision.Proofs.Enactment

/-!
# The listening level

The listening level is state on both sides: the queue keeps it for the callers, and a session
knows what it was told last. Callers set it whether or not there is a session, a replay tells it
to a new session in any case, and turns it off before a removal. While a session is in the slot
the two agree (`listening_levels_agree`), since each of these tells the session and changes the
queue together, and a session that refused to be told leaves the slot.
-/

namespace Supervision

/-! ## What a session heard -/

/-- The listening level of a session that was sent these events: the last that it accepted; at
first it is not listening. -/
def heardLevel (ds : List (LifecycleEvent × Bool)) : Bool :=
  ds.foldl (fun level d => if d.2 then d.1.level?.getD level else level) false

theorem heardLevel_accept (ds : List (LifecycleEvent × Bool)) (e : LifecycleEvent) :
    heardLevel (ds ++ [(e, true)]) = e.level?.getD (heardLevel ds) := by
  simp [heardLevel]

/-- A session that accepts a whole replay listens if the level was on, unless it was removed. -/
theorem heardLevel_script (p : Pending) :
    heardLevel (p.script.map (·, true)) = (p.listening && !p.contains .removed) := by
  have hclick : (Replay.click p.snapshot p.listening).event?.bind LifecycleEvent.level? = none := by
    unfold Replay.click
    split <;> rfl
  have hunlock : (Replay.unlock p.listening).event?.bind LifecycleEvent.level? = none := by
    cases p.listening <;> rfl
  have hitem : ∀ (b : Bool) (i : Replay.Item) (level : Bool),
      ((if b then [i] else []).filterMap Replay.Item.event?).foldl
        (fun level e => e.level?.getD level) level =
        if b then (i.event?.bind LifecycleEvent.level?).getD level else level := by
    intro b i level
    cases b <;> cases i <;> rfl
  simp only [heardLevel, List.foldl_map, if_true, Pending.script, Replay.plan,
    List.filterMap_append, List.foldl_append, hitem, hclick, hunlock, Pending.contains_snapshot]
  cases p.listening <;> cases p.contains .removed <;>
    simp [Replay.Item.event?, LifecycleEvent.level?]

/-! ## Agreement -/

variable {W : Type} {host : Host W} {s t : System W}

/-- The session in the slot has the listening level that the queue keeps. -/
def Agreed (s : System W) : Prop :=
  ∀ x, s.slot = some x → heardLevel (s.journal.dispatches x.token) = s.pending.listening

/-- Being told something changes the level on both sides alike. -/
theorem Pending.listening_heed (p : Pending) (e : LifecycleEvent) :
    (p.heed e).listening = e.level?.getD p.listening := by
  cases e <;> rfl

namespace Agreed

theorem of_still (hs : Agreed s) (h : Still s t) : Agreed t := by
  intro x hx
  have hj : Journal.SameOf x.token s.journal t.journal :=
    Journal.sameOf_of_growsBy h.journal.foreign.elsewhere
  rw [hj.dispatches, h.pending]
  exact hs x (h.slot ▸ hx)

theorem of_told {e : LifecycleEvent} (hs : Agreed s) (h : Told s e t) : Agreed t := by
  cases h with
  | untold => exact hs
  | deferred hslot ht =>
    intro x hx
    cases (ht.slot.trans hslot).symm.trans hx
  | @accepted _ y a hslot ha ht =>
    refine of_still (fun x hx => ?_) ht.still
    obtain rfl : y = x := Option.some.inj (hslot.symm.trans hx)
    have hlevel : heardLevel (s.journal.dispatches y.token) = s.pending.listening := hs y hslot
    have hj : ((s.record (.told e (some y))).record (.call (.dispatch y e a))).journal.dispatches
        y.token = s.journal.dispatches y.token ++ [(e, true)] := by
      simp [System.record, Journal.dispatches_cons, Fact.dispatch?, ha]
    rw [hj, heardLevel_accept, Pending.listening_heed, hlevel]
  | refused _ _ ht =>
    intro x hx
    cases ht.slot.symm.trans hx

theorem of_lost (h : Lost s t) : Agreed t := by
  intro x hx
  cases h.slot.symm.trans hx

theorem of_move (hs : Agreed s) (ha : ∀ token, Attended token s) (h : Move host s t) :
    Agreed t := by
  cases h with
  | still h => exact hs.of_still h
  | told h => exact hs.of_told h
  | lost h => exact of_lost h
  | sought _ hu =>
    exact hu.induct (motive := Agreed) hs (fun _ _ h hs => hs.of_still h)
      fun _ _ _ h hs => hs.of_told h
  | @made u x o hst hattempt hr ho =>
    intro y hy
    obtain rfl : x = y := Option.some.inj hy
    -- nothing was sent to the session before the replay
    have hplans := (ha x.token).seeking hst hattempt
    have hnone : s.journal.dispatches x.token = [] := ((ha x.token).served.unplanned hplans).2
    obtain ⟨ds, hds, hcarried⟩ := (System.enacted_of_replay hr).sent
    have hsent := Journal.dispatches_of_sent hds
    rw [hnone, List.nil_append] at hsent
    rw [ho] at hcarried
    cases hcarried
    calc heardLevel (u.journal.dispatches x.token)
        = heardLevel (s.pending.script.map (·, true)) := congrArg heardLevel hsent
      _ = (s.pending.listening && !s.pending.contains .removed) := heardLevel_script s.pending
      _ = u.pending.listening := (System.listening_of_replay hr).symm
  | refused _ _ _ _ hl => exact of_lost hl

end Agreed

theorem Reachable.agreed (hs : Reachable host s) : Agreed s := by
  induction hs with
  | spawn => exact nofun
  | @step s hs a ih =>
    have hboth : (∀ token, Attended token (s.step host a)) ∧ Agreed (s.step host a) :=
      step_induct (motive := fun s => (∀ token, Attended token s) ∧ Agreed s)
        (fun _ _ _ h => ⟨fun token => { h.1 token with }, h.2⟩)
        (fun _ _ h hs => ⟨fun token => (hs.1 token).of_move h, hs.2.of_move hs.1 h⟩)
        ⟨hs.attended, ih⟩ a
    exact hboth.2

/-- The extension and the supervisor agree on the listening level: while a session is in the
slot, the last of the events about listening that it accepted gives the level that the queue
keeps. -/
theorem listening_levels_agree (hs : Reachable host s) {x : Session} (hx : s.slot = some x) :
    heardLevel (s.journal.dispatches x.token) = s.pending.listening :=
  hs.agreed x hx

/-- A supervisor that was told to listen and of a removal before it had a connection, and to
listen again since. -/
def Scenario.attuned : System World :=
  (System.spawn ⟨⟨0⟩, ⟨"music"⟩, ⟨"player"⟩⟩ {} { transports := [{}] }).run Scenario.host
    [.act (.tell .startListening), .act (.tell .removed), .turn, .turn,
      .act (.deed (.ask (.setEnabled true))), .turn,
      .act (.deed (.report (.connected ⟨1⟩ ⟨0⟩))), .turn, .act (.tell .startListening)]

theorem Scenario.reachable_attuned : Reachable Scenario.host attuned :=
  (Reachable.spawn _ _ _ rfl).run _

theorem attuned_levels_agree :
    Scenario.attuned.journal.dispatches ⟨1⟩ = [(.startListening, true), (.stopListening, true),
      (.removed, true), (.startListening, true)] ∧
    Scenario.attuned.pending.listening = true := by
  have hsent : Scenario.attuned.journal.dispatches ⟨1⟩ = [(.startListening, true),
    (.stopListening, true), (.removed, true), (.startListening, true)] := rfl
  have hslot : Scenario.attuned.slot = some ⟨⟨1⟩, ⟨0⟩⟩ := rfl
  have h := listening_levels_agree Scenario.reachable_attuned hslot
  exact ⟨hsent, h.symm.trans (congrArg heardLevel hsent)⟩

end Supervision
