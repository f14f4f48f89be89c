import Supervision.Proofs.Disconnection
import Supervision.Proofs.Conservation
import Supervision.Proofs.Enactment

/-!
# What callers told is recounted

While no session is in the slot, what callers tell the extension goes to the queue, and what a
connection then replays is determined by what was told. Of each kind at most one event is
replayed, however often it was told; of the clicks the last one; and the level at which the
replay begins is the last that was set. `Replay.agenda` is the order in which the session is
told, and `replay_recounts_calls` says that it is told that, up to the first event that it
refuses.
-/

namespace Supervision

/-! ## The queue after calls -/

namespace Pending

/-- The queue after callers told the extension of these events while there was no session. -/
def recount (p : Pending) (calls : List LifecycleEvent) : Pending :=
  calls.foldl (fun p e => (p.heed e).defer e) p

variable (p : Pending) (calls : List LifecycleEvent)

/-- Whether an event of kind `k` waits, or was told. -/
def owes (k : EventKind) : Bool := p.contains k || calls.any (·.kind? == some k)

/-- The target of the last click that was told, or else of the one that waits. -/
def lastTarget : Option ClickTarget :=
  (calls.filterMap LifecycleEvent.target?).getLast?.or p.target

/-- The last listening level that was told, or else the one that is kept. -/
def lastLevel : Bool := (calls.filterMap LifecycleEvent.level?).getLast?.getD p.listening

theorem contains_recount (k : EventKind) : (p.recount calls).contains k = p.owes calls k := by
  induction calls generalizing p with
  | nil => simp [recount, owes]
  | cons e calls ih =>
    refine (ih _).trans ?_
    rw [owes, contains_defer, contains_heed, owes, List.any_cons]
    cases e.kind? == some k <;> simp

/-- What an event says counts unless one behind it says something. -/
theorem getLast?_filterMap_cons {α β : Type} (f : α → Option β) (x : α) (xs : List α) :
    ((x :: xs).filterMap f).getLast? = (xs.filterMap f).getLast?.or (f x) := by
  cases h : f x with
  | none => simp [h]
  | some y =>
    rw [List.filterMap_cons_some h, List.getLast?_cons]
    cases (xs.filterMap f).getLast? <;> rfl

theorem target_recount : (p.recount calls).target = p.lastTarget calls := by
  induction calls generalizing p with
  | nil => simp [recount, lastTarget]
  | cons e calls ih =>
    have he : ((p.heed e).defer e).target = e.target?.or p.target := by cases e <;> rfl
    refine (ih _).trans ?_
    rw [lastTarget, lastTarget, getLast?_filterMap_cons, Option.or_assoc, he]

theorem listening_recount : (p.recount calls).listening = p.lastLevel calls := by
  induction calls generalizing p with
  | nil => simp [recount, lastLevel]
  | cons e calls ih =>
    have he : ((p.heed e).defer e).listening = e.level?.getD p.listening := by cases e <;> rfl
    refine (ih _).trans ?_
    rw [lastLevel, lastLevel, getLast?_filterMap_cons, Option.getD_or, he]

end Pending

/-! ## The order of a replay -/

/-- What a session is told of the kinds owed to it, at a listening level: that it was added
comes first, and that it was removed comes last; what only a listening extension is told comes
between the start and the stop. -/
def Replay.agenda (owed : EventKind → Bool) (target : ClickTarget) (listening : Bool) :
    List LifecycleEvent :=
  (if owed .added then [.added] else []) ++
  (if listening then [.startListening] else []) ++
  (if owed .click && listening then [.click target] else []) ++
  (if owed .unlockComplete && listening then [.unlockComplete] else []) ++
  (if owed .removed && listening then [.stopListening] else []) ++
  (if owed .removed then [.removed] else [])

namespace Pending

variable {p : Pending} {target : ClickTarget}

/-- A click that waits is replayed with its target, if the level is on. -/
theorem click_eq (hc : p.contains .click = true) (ht : p.target = some target) :
    Replay.click p.snapshot p.listening =
      if p.listening then .send (.click target) else .discard .click := by
  have h : p.snapshot.clickTarget? = some target := (if_pos hc).trans ht
  simp only [Replay.click, h]
  cases p.listening <;> rfl

/-- A replay sends what the agenda says. -/
theorem script_eq_agenda (h : p.contains .click = true → p.target = some target) :
    p.script = Replay.agenda p.contains target p.listening := by
  have hitem : ∀ (b : Bool) (i : Replay.Item),
      (if b then [i] else []).filterMap Replay.Item.event? = if b then i.event?.toList else [] := by
    intro b i
    cases b <;> cases i <;> rfl
  have hclick : (if p.contains .click then
      (Replay.click p.snapshot p.listening).event?.toList else []) =
      if p.contains .click && p.listening then [.click target] else [] := by
    cases hc : p.contains .click with
    | false => rfl
    | true =>
      rw [click_eq hc (h hc)]
      cases p.listening <;> rfl
  have hunlock : (Replay.unlock p.listening).event?.toList =
      if p.listening then [.unlockComplete] else [] := by
    cases p.listening <;> rfl
  simp only [script, Replay.plan, Replay.agenda, List.filterMap_append, hitem, contains_snapshot,
    hclick, hunlock]
  cases p.listening <;> simp [Replay.Item.event?]

/-- A replay drops what only a listening extension is told, if the level is off. -/
theorem losses_eq (h : p.contains .click = true → p.target = some target) :
    p.losses = if p.listening then 0
      else (p.contains .click).toNat + (p.contains .unlockComplete).toNat := by
  have hitem : ∀ (b : Bool) (i : Replay.Item),
      (if b then [i] else []).countP (·.discarded?.isSome) =
        if b && i.discarded?.isSome then 1 else 0 := by
    intro b i
    cases b <;> cases i <;> rfl
  have hclick : (p.contains .click &&
      (Replay.click p.snapshot p.listening).discarded?.isSome) =
      (p.contains .click && !p.listening) := by
    cases hc : p.contains .click with
    | false => rfl
    | true =>
      rw [click_eq hc (h hc)]
      cases p.listening <;> rfl
  have hunlock : (Replay.unlock p.listening).discarded?.isSome = !p.listening := by
    cases p.listening <;> rfl
  simp only [losses, Replay.plan, List.countP_append, hitem, contains_snapshot, hclick,
    hunlock]
  cases p.listening <;> simp [Replay.Item.discarded?, ite_eq_toNat]

end Pending

/-! ## Runs without a session -/

variable {W : Type} {host : Host W} {s t u : System W}

/-- A click that waits has a target. -/
theorem Reachable.exists_target (hs : Reachable host s) : ∃ target,
    s.pending.contains .click = true → s.pending.target = some target := by
  by_cases hwaits : s.pending.contains .click = true
  · obtain ⟨target, ht, -⟩ := hs.accounted.target hwaits
    exact ⟨target, fun _ => ht⟩
  · exact ⟨⟨0⟩, fun h => absurd h hwaits⟩

/-- The losses that are published are those of the loop. -/
theorem Reachable.droppedEvents_eq (hs : Reachable host s) :
    s.status.droppedEvents = s.loop.dropped := by
  rw [hs.status_eq]
  rfl

namespace System

/-- What a caller tells the extension in a step, if a caller does. -/
def call? (s : System W) : Step W → Option LifecycleEvent
  | .act (.tell e) => if s.handles = 0 then none else some e
  | _ => none

/-- What callers tell the extension in a run, in order. -/
def calls (host : Host W) (s : System W) : List (Step W) → List LifecycleEvent
  | [] => []
  | a :: as => (s.call? a).toList ++ (s.step host a).calls host as

end System

/-- There is no session, and all that became of what callers told is that it waits. -/
structure Unattended (calls : List LifecycleEvent) (s t : System W) : Prop where
  slot : t.slot = none
  pending : t.pending = s.pending.recount calls
  dropped : t.loop.dropped = s.loop.dropped
  sent : t.journal.sent = s.journal.sent

namespace Unattended

variable {calls calls' : List LifecycleEvent}

theorem trans (h : Unattended calls s t) (h' : Unattended calls' t u) :
    Unattended (calls ++ calls') s u where
  slot := h'.slot
  pending := by
    rw [h'.pending, h.pending]
    exact (List.foldl_append ..).symm
  dropped := h'.dropped.trans h.dropped
  sent := h'.sent.trans h.sent

theorem of_still (hs : s.slot = none) (h : Still s t) : Unattended [] s t where
  slot := h.slot.trans hs
  pending := h.pending
  dropped := h.dropped
  sent := Journal.sent_of_growsBy h.journal.uneventful

theorem of_lost (h : Lost s t) : Unattended [] s t where
  slot := h.slot
  pending := h.pending
  dropped := h.dropped
  sent := Journal.sent_of_growsBy h.journal

theorem of_tell (host : Host W) (hs : s.slot = none) (e : LifecycleEvent) :
    Unattended (s.call? (.act (.tell e))).toList s (s.tell host e) := by
  by_cases hhandles : s.handles = 0
  · simp only [System.call?, System.tell, hhandles, if_true]
    exact of_still hs (.refl s)
  · have hpending := System.pending_tell host e hs hhandles
    have h := System.told_tell host s e
    generalize s.tell host e = t at h hpending ⊢
    simp only [System.call?, hhandles, if_false, Option.toList_some]
    cases h with
    | untold => exact ⟨hs, hpending, rfl, rfl⟩
    | deferred _ ht =>
      refine ⟨ht.slot.trans hs, hpending, by rw [ht.loop]; rfl, ?_⟩
      exact (Journal.sent_of_growsBy ht.journal.uneventful).trans
        (Journal.sent_cons.trans (List.append_nil _))
    | accepted hx => cases hs.symm.trans hx
    | refused hx => cases hs.symm.trans hx

/-- The kinds that wait are those that are owed. -/
theorem contains_eq (h : Unattended calls s t) : t.pending.contains = s.pending.owes calls := by
  funext k
  rw [h.pending, Pending.contains_recount]

/-- The target that is kept is the last one that was told. -/
theorem target_eq (h : Unattended calls s t) : t.pending.target = s.pending.lastTarget calls := by
  rw [h.pending, Pending.target_recount]

/-- So is the level. -/
theorem listening_eq (h : Unattended calls s t) :
    t.pending.listening = s.pending.lastLevel calls := by
  rw [h.pending, Pending.listening_recount]

end Unattended

namespace System

/-- The command that an event was deferred without a session has nothing to look after. -/
theorem still_process_deathCheck (host : Host W) (s : System W) :
    Still s (s.process host (.deathCheck none)) := by
  have h : Still s ((s.note (.received (.deathCheck none))).note .deferredWithoutSession) :=
    (still_note rfl).trans (still_note rfl)
  exact h.trans (still_publish _)

theorem unattended_step (hs : s.slot = none) (host : Host W) (a : Step W)
    (hc : ∀ c, s.command? a = some c → c = .deathCheck none) :
    Unattended (s.call? a).toList s (s.step host a) := by
  cases a with
  | act a =>
    cases a with
    | deed d => exact .of_still hs (unheard_perform host d).still
    | tell e => exact .of_tell host hs e
  | turn =>
    simp only [step, turn]
    split
    · exact { Unattended.of_still hs (still_note (n := .loopStarted) rfl) with }
    · exact .of_still hs (.refl s)
    · rename_i hrun
      split
      · rename_i c rest hi
        obtain rfl := hc c (by simp [command?, hrun, hi])
        have h := still_process_deathCheck host { s with inbox := rest }
        exact { Unattended.of_still (s := { s with inbox := rest }) hs h with }
      · split
        · exact .of_still hs (.refl s)
        · have h := (still_note (s := s) (n := .allHandlesDropped) rfl).lost
            ((lost_teardown host _).still (still_publish _))
          exact { Unattended.of_lost h with }
  | fire x =>
    simp only [step]
    split
    · have h := unheard_notify (s := { s with timers := s.timers.erase x })
        (.retryElapsed x.generation)
      exact .of_still hs { h.still with }
    · exact .of_still hs (.refl s)
  | wait span => exact .of_still hs { Still.refl s with }
  | leave count => exact .of_still hs { Still.refl s with }
  | drift w => exact .of_still hs { Still.refl s with }

theorem unattended_run (hs : s.slot = none) (host : Host W) (as : List (Step W))
    (hc : ∀ c ∈ s.commands host as, c = .deathCheck none) :
    Unattended (s.calls host as) s (s.run host as) := by
  induction as generalizing s with
  | nil => exact .of_still hs (.refl s)
  | cons a as ih =>
    have h := unattended_step hs host a fun c hca => hc c (by simp [commands, hca])
    exact h.trans (ih h.slot fun c hmem => hc c (by simp [commands, hmem]))

end System

/-- A session is told what waited and what callers told since, as the agenda has it, up to the
first event that it refuses. Let callers tell the extension anything while no session is in the
slot, and the loop process nothing but what comes of that, and then the connection that the bind
in flight led to. Then the kinds owed are those that waited and those that were told, the click
is the last one, and the level the last that was set. If all of it is accepted nothing waits any
more, a removal has turned the level off, and what only a listening extension is told was dropped
if the level was off. -/
theorem replay_recounts_calls (hs : Reachable host s) (hslot : s.slot = none) {as : List (Step W)}
    (hc : ∀ c ∈ s.commands host as, c = .deathCheck none) {a : Step W} {token : BindToken}
    {transport : TransportId} (ha : (s.run host as).command? a = some (.connected token transport))
    (hattempt : (s.run host as).loop.attempt = some token)
    (hst : (s.run host as).loop.state = .connecting) :
    ∃ target ds failed,
      (s.pending.owes (s.calls host as) .click = true →
        s.pending.lastTarget (s.calls host as) = some target) ∧
      ((s.run host as).step host a).journal.sent =
        s.journal.sent ++ ds.map (⟨token, transport⟩, ·) ∧
      Replay.Carried (Replay.agenda (s.pending.owes (s.calls host as)) target
        (s.pending.lastLevel (s.calls host as))) failed ds ∧
      ((∀ d ∈ ds, d.2 = true) →
        ((s.run host as).step host a).pending.isEmpty = true ∧
        ((s.run host as).step host a).pending.listening =
          (s.pending.lastLevel (s.calls host as) &&
            !s.pending.owes (s.calls host as) .removed) ∧
        ((s.run host as).step host a).status.droppedEvents = s.status.droppedEvents +
          if s.pending.lastLevel (s.calls host as) then 0
          else (s.pending.owes (s.calls host as) .click).toNat +
            (s.pending.owes (s.calls host as) .unlockComplete).toNat) := by
  have hrun := System.unattended_run hslot host as hc
  obtain ⟨target, hclick⟩ := (hs.run as).exists_target
  obtain ⟨failed, h⟩ := System.introduced_step host ha hattempt hst
  obtain ⟨ds, hds, hcarried⟩ := h.sent
  have hlosses := Pending.losses_eq hclick
  rw [Pending.script_eq_agenda hclick, hrun.contains_eq, hrun.listening_eq] at hcarried
  rw [hrun.contains_eq, hrun.listening_eq] at hlosses
  rw [hrun.contains_eq, hrun.target_eq] at hclick
  refine ⟨target, ds, failed, hclick, hds.trans (by rw [hrun.sent]), hcarried, fun hall => ?_⟩
  have hf := hcarried.eq_false hall
  refine ⟨?_, ?_, ?_⟩
  · rw [Pending.isEmpty, (h.empty hf).1]
    rfl
  · rw [h.listening, hrun.contains_eq, hrun.listening_eq]
  · rw [((hs.run as).step a).droppedEvents_eq, hs.droppedEvents_eq, h.dropped, hrun.dropped, hlosses]

/-- A supervisor that was asked for a connection and waits for it. -/
def Scenario.awaiting : System World :=
  (System.spawn ⟨⟨0⟩, ⟨"music"⟩, ⟨"player"⟩⟩ {} { transports := [{}] }).run Scenario.host
    [.turn, .act (.deed (.ask (.setEnabled true))), .turn]

theorem Scenario.reachable_awaiting : Reachable Scenario.host awaiting :=
  (Reachable.spawn _ _ _ rfl).run _

/-- What callers tell it meanwhile, up to the report of the connection. -/
def Scenario.told : List (Step World) :=
  [.act (.tell (.click ⟨7⟩)), .act (.tell .removed), .act (.tell .startListening),
    .act (.tell (.click ⟨9⟩)), .turn, .turn, .turn,
    .act (.deed (.report (.connected ⟨1⟩ ⟨0⟩)))]

theorem last_click_is_recounted :
    ((Scenario.awaiting.run Scenario.host Scenario.told).step Scenario.host .turn).journal.sent =
      [(⟨⟨1⟩, ⟨0⟩⟩, .startListening, true), (⟨⟨1⟩, ⟨0⟩⟩, .click ⟨9⟩, true),
        (⟨⟨1⟩, ⟨0⟩⟩, .stopListening, true), (⟨⟨1⟩, ⟨0⟩⟩, .removed, true)] ∧
    ((Scenario.awaiting.run Scenario.host Scenario.told).step Scenario.host .turn).pending.isEmpty =
      true ∧
    ((Scenario.awaiting.run Scenario.host Scenario.told).step Scenario.host
      .turn).pending.listening = false := by
  have hc : ∀ c ∈ Scenario.awaiting.commands Scenario.host Scenario.told, c = .deathCheck none := by
    decide
  have hconnected : (Scenario.awaiting.run Scenario.host Scenario.told).command? .turn =
      some (.connected ⟨1⟩ ⟨0⟩) := rfl
  obtain ⟨target, ds, failed, -, hsent, -, hafter⟩ :=
    replay_recounts_calls Scenario.reachable_awaiting rfl hc hconnected rfl rfl
  have hds : [(.startListening, true), (.click ⟨9⟩, true), (.stopListening, true),
      (.removed, true)] = ds := by
    have h : _ = (ds.map ((⟨⟨1⟩, ⟨0⟩⟩ : Session), ·)).map Prod.snd :=
      congrArg (List.map Prod.snd) hsent
    exact Eq.trans h (by simp [Function.comp_def])
  subst hds
  obtain ⟨hempty, hlistening, -⟩ := hafter (by decide)
  exact ⟨hsent, hempty, hlistening⟩

end Supervision
