import Supervision.Proofs.Reconnects

/-!
# The delay of a reconnect

A *setback* is the death of a session, or a bind that is turned down. The loop then schedules a
reconnect, to be made after a fixed delay, unless one is scheduled already: that one keeps the time
for which it was set. So a reconnect is made no earlier than the delay after each setback that found
none scheduled (`reconnects_keep_delay`), the one among them for which it was scheduled.

It may be made earlier than that after a setback that found one scheduled, because nothing but the
retry itself, a wish for no connection, and the stop of the loop take back a scheduled reconnect:
a connection that was made meanwhile, on the request of a caller or upon a signal, does not. If such
a connection dies just before the reconnect is due, there is next to no delay
(`reconnect_is_early`).
-/

namespace Supervision

variable {W : Type} {host : Host W} {s t : System W} {d now : Nat} {i j : Journal} {r : Record}

/-! ## Setbacks -/

namespace Fact

/-- A session died, or a bind was turned down. -/
def isSetback : Fact → Bool
  | .note (.sessionDied ..) => true
  | .call (.bind _ (.error _)) => true
  | _ => false

/-- Whether a reconnect is scheduled from now on, if the fact says anything about that. -/
def schedules? : Fact → Option Bool
  | .note (.retryScheduled _) => some true
  | .note .retrying | .note .retrySkipped => some false
  | .note .unbinding | .note .destroying => some false
  | _ => none

/-- The command that was taken up. -/
def command? : Fact → Option Command
  | .note (.received c) => some c
  | _ => none

/-- What is no milestone has nothing to do with reconnects and setbacks. -/
theorem of_isMilestone_eq_false {f : Fact} (h : f.isMilestone = false) :
    f.isSetback = false ∧ f.schedules? = none ∧ f.command? = none ∧ f.isBind = false := by
  unfold isMilestone at h
  split at h
  any_goals contradiction
  refine ⟨?_, ?_, ?_, ?_⟩
  · unfold isSetback
    split <;> simp_all
  · unfold schedules?
    split <;> simp_all
  · unfold command?
    split <;> simp_all
  · unfold isBind
    split <;> simp_all

end Fact

namespace Journal

/-- Whether a reconnect is scheduled. -/
def awaiting : Journal → Bool
  | [] => false
  | r :: j => r.fact.schedules?.getD (awaiting j)

/-- The command that the loop is busy with. -/
def command? : Journal → Option Command
  | [] => none
  | r :: j => r.fact.command?.or (command? j)

/-- By this time the delay has passed since each setback that found no reconnect scheduled. -/
def Rested (delay now : Nat) (j : Journal) : Prop :=
  ∀ (newer : Journal) (r : Record) (older : Journal), j = newer ++ r :: older →
    r.fact.isSetback = true → older.awaiting = false → r.time + delay ≤ now

/-- Before each reconnect the delay has passed. -/
def Spaced (delay : Nat) (j : Journal) : Prop :=
  ∀ (newer : Journal) (b : Record) (older : Journal) (g : Nat), j = newer ++ b :: older →
    b.fact.isBind = true → older.command? = some (.retryElapsed g) → older.Rested delay b.time

/-- The delay counts from a setback that found no reconnect scheduled. -/
theorem rested_cons : Rested d now (r :: j) ↔
    (r.fact.isSetback = true → j.awaiting = false → r.time + d ≤ now) ∧ Rested d now j := by
  constructor
  · intro h
    exact ⟨h [] r j rfl, fun newer r' older hj => h (r :: newer) r' older (by rw [hj]; rfl)⟩
  · rintro ⟨hr, hj⟩ (_ | ⟨_, newer⟩) r' older h
    · obtain ⟨rfl, rfl⟩ := List.cons.inj h
      exact hr
    · exact hj newer r' older (List.cons.inj h).2

theorem Rested.skip (h : Rested d now j) (hr : r.fact.isSetback = false) :
    Rested d now (r :: j) :=
  rested_cons.2 ⟨fun hsetback => absurd hsetback (by simp [hr]), h⟩

theorem Rested.mono {now' : Nat} (h : Rested d now j) (hnow : now ≤ now') : Rested d now' j :=
  fun newer r older hj hr ha => Nat.le_trans (h newer r older hj hr ha) hnow

/-- All setbacks are in the past, and the delay passes from now on. -/
theorem rested_of_past (h : ∀ r ∈ j, r.fact.isSetback = true → r.time ≤ now) :
    Rested d (now + d) j := by
  rintro newer r older rfl hr -
  have := h r (by simp) hr
  omega

theorem spaced_nil : Spaced d [] := by
  intro newer b older g h
  simp at h

/-- A bind counts if the loop is busy with a retry. -/
theorem spaced_cons : Spaced d (r :: j) ↔
    (∀ g, r.fact.isBind = true → j.command? = some (.retryElapsed g) → Rested d r.time j) ∧
      Spaced d j := by
  constructor
  · intro h
    refine ⟨fun g => h [] r j g rfl, fun newer b older g hj => ?_⟩
    exact h (r :: newer) b older g (by rw [hj]; rfl)
  · rintro ⟨hr, hj⟩ (_ | ⟨_, newer⟩) b older g h
    · obtain ⟨rfl, rfl⟩ := List.cons.inj h
      exact hr g
    · exact hj newer b older g (List.cons.inj h).2

theorem Spaced.skip (h : Spaced d j) (hr : r.fact.isBind = false) : Spaced d (r :: j) :=
  spaced_cons.2 ⟨fun _ hbind => absurd hbind (by simp [hr]), h⟩

theorem past_skip (h : ∀ r ∈ j, r.fact.isSetback = true → r.time ≤ now)
    (hr : r.fact.isSetback = false) : ∀ r' ∈ r :: j, r'.fact.isSetback = true → r'.time ≤ now :=
  List.forall_mem_cons.2 ⟨fun hsetback => absurd hsetback (by simp [hr]), h⟩

/-! ### Facts that are no milestones -/

section Minor

variable (h : i.GrowsBy (·.isMilestone = false) j)
include h

/-- Whether a reconnect is scheduled changes with milestones alone. -/
theorem awaiting_of_growsBy : j.awaiting = i.awaiting := by
  refine h.induct (motive := fun j => j.awaiting = i.awaiting) rfl fun r j hr hj => ?_
  obtain ⟨-, hschedules, -⟩ := Fact.of_isMilestone_eq_false hr
  rw [awaiting, hschedules, Option.getD_none, hj]

theorem command?_of_growsBy : j.command? = i.command? := by
  refine h.induct (motive := fun j => j.command? = i.command?) rfl fun r j hr hj => ?_
  obtain ⟨-, -, hcommand, -⟩ := Fact.of_isMilestone_eq_false hr
  rw [command?, hcommand, Option.none_or, hj]

theorem past_of_growsBy (hi : ∀ r ∈ i, r.fact.isSetback = true → r.time ≤ now) :
    ∀ r ∈ j, r.fact.isSetback = true → r.time ≤ now := by
  exact h.induct (motive := fun j => ∀ r ∈ j, r.fact.isSetback = true → r.time ≤ now) hi
    fun r j hr hj => past_skip hj (Fact.of_isMilestone_eq_false hr).1

/-- The rest is kept by facts that are no setbacks. -/
theorem rested_of_growsBy (hi : i.Rested d now) : j.Rested d now := by
  exact h.induct (motive := Rested d now) hi fun r j hr hj =>
    hj.skip (Fact.of_isMilestone_eq_false hr).1

/-- The spacing is kept by facts that are no binds. -/
theorem spaced_of_growsBy (hi : i.Spaced d) : j.Spaced d := by
  refine h.induct (motive := Spaced d) hi fun r j hr hj => ?_
  obtain ⟨-, -, -, hnone⟩ := Fact.of_isMilestone_eq_false hr
  exact hj.skip hnone

end Minor

end Journal

/-! ## Reconnects and setbacks -/

/-- A timer that fires posts a command, if that is accepted. -/
theorem System.exists_fire_eq (s : System W) (x : Timer) : ∃ inbox journal,
    s.fire x = { s with timers := s.timers.erase x, inbox := inbox, journal := journal } ∧
    (∀ c ∈ inbox, c ∈ s.inbox ∨ c = .retryElapsed x.generation) ∧
    s.journal.GrowsBy (·.isMilestone = false) journal := by
  unfold fire notify
  split
  · exact ⟨_, _, rfl, fun _ => .inl, .cons rfl⟩
  split
  · exact ⟨_, _, rfl, fun c hc => by simpa using hc, .refl _⟩
  · exact ⟨_, _, rfl, fun _ => .inl, .refl _⟩

/-- When the retry is due, the delay has passed since each setback that found none scheduled. -/
structure Punctual (d : Nat) (s : System W) : Prop where
  armed : Armed s
  delay : s.config.retryDelay.toNat = d
  awaiting : s.journal.awaiting = s.loop.retry.isSome
  past : ∀ r ∈ s.journal, r.fact.isSetback = true → r.time ≤ s.clock
  timers : ∀ x ∈ s.timers, s.journal.Rested d x.due
  elapsed : ∀ g, s.loop.retry = some g → .retryElapsed g ∈ s.inbox → s.journal.Rested d s.clock
  spaced : s.journal.Spaced d

namespace Punctual

/-- What is written into the journal without a change of the retry. A setback that finds no
reconnect scheduled finds none that could come too early. -/
theorem record (hs : Punctual d s) {f : Fact} (hf : f.schedules? = none)
    (hbind : ∀ g, f.isBind = true → s.journal.command? = some (.retryElapsed g) →
      s.journal.Rested d s.clock) : Punctual d (s.record f) where
  armed := hs.armed.record f
  delay := hs.delay
  awaiting := by
    have h : (s.record f).journal.awaiting = f.schedules?.getD s.journal.awaiting := rfl
    rw [h, hf, Option.getD_none]
    exact hs.awaiting
  past := List.forall_mem_cons.2 ⟨fun _ => Nat.le_refl _, hs.past⟩
  timers := by
    intro x hx
    refine Journal.rested_cons.2 ⟨fun _ hfree => ?_, hs.timers x hx⟩
    rw [hs.awaiting, hs.armed.timers x hx] at hfree
    cases hfree
  elapsed := by
    intro g hg hmem
    refine Journal.rested_cons.2 ⟨fun _ hfree => ?_, hs.elapsed g hg hmem⟩
    have hretry : s.loop.retry = some g := hg
    rw [hs.awaiting, hretry] at hfree
    cases hfree
  spaced := Journal.spaced_cons.2 ⟨hbind, hs.spaced⟩

theorem note (hs : Punctual d s) {n : Note} (hn : (Fact.note n).schedules? = none) :
    Punctual d (s.note n) :=
  hs.record hn nofun

/-- What leaves the retry alone leaves it punctual. -/
theorem of_untimed (h : Untimed s t) (hs : Punctual d s) : Punctual d t where
  armed := hs.armed.of_untimed h
  delay := by rw [h.config, hs.delay]
  awaiting := by rw [Journal.awaiting_of_growsBy h.journal, h.retry, hs.awaiting]
  past := by
    rw [h.clock]
    exact Journal.past_of_growsBy h.journal hs.past
  timers := by
    rw [h.timers]
    exact fun x hx => Journal.rested_of_growsBy h.journal (hs.timers x hx)
  elapsed := by
    obtain ⟨new, hinbox, hnew⟩ := h.inbox
    intro g hg hmem
    rw [h.retry] at hg
    rw [hinbox, List.mem_append] at hmem
    rw [h.clock]
    exact Journal.rested_of_growsBy h.journal (hs.elapsed g hg (hmem.resolve_right (hnew g)))
  spaced := Journal.spaced_of_growsBy h.journal hs.spaced

/-- All setbacks are in the past when a retry is scheduled. -/
theorem of_scheduleRetry (hs : Punctual d s) (hr : s.loop.retry = none) :
    Punctual d s.scheduleRetry := by
  have harmed := hs.armed.of_scheduleRetry hr
  rw [System.scheduleRetry_eq hr, hs.armed.timers_eq_nil hr, hs.delay] at harmed ⊢
  exact {
    armed := harmed
    delay := hs.delay
    awaiting := rfl
    past := Journal.past_skip hs.past rfl
    timers := by
      intro x hx
      obtain rfl := List.mem_singleton.1 hx
      exact (Journal.rested_of_past hs.past).skip rfl
    elapsed := by
      intro g hg hmem
      have hissued := hs.armed.issued g (.inr hmem)
      have := Option.some.inj hg
      omega
    spaced := hs.spaced.skip rfl }

/-- A retry that is taken back need not be punctual. -/
theorem of_cancelled {n : Note} (hn : n = .unbinding ∨ n = .destroying)
    (h : Untimed (s.note n) t) (hs : Punctual d s) : Punctual d t.cancelRetry := by
  have hnote : (s.note n).journal.awaiting = false := by rcases hn with rfl | rfl <;> rfl
  have hpast : ∀ r ∈ (s.note n).journal, r.fact.isSetback = true → r.time ≤ s.clock :=
    List.forall_mem_cons.2 ⟨fun _ => Nat.le_refl _, hs.past⟩
  have hspaced : (s.note n).journal.Spaced d := hs.spaced.skip rfl
  have ht := (hs.armed.record (.note n)).of_untimed h
  have harmed := ht.of_cancelRetry
  rw [ht.cancelRetry_eq] at harmed ⊢
  exact {
    armed := harmed
    delay := (congrArg (·.retryDelay.toNat) h.config).trans hs.delay
    awaiting := (Journal.awaiting_of_growsBy h.journal).trans hnote
    past := by
      have hclock : t.clock = s.clock := h.clock
      rw [← hclock] at hpast
      exact Journal.past_of_growsBy h.journal hpast
    timers := nofun
    elapsed := nofun
    spaced := Journal.spaced_of_growsBy h.journal hspaced }

/-- So errands keep the delay. -/
theorem of_errands (h : Errands s t) (hs : Punctual d s) : Punctual d t := by
  refine h.induct hs (fun _ _ h hs => hs.of_untimed h) fun u v h hu => ?_
  cases h with
  | scheduled hr => exact hu.of_scheduleRetry hr
  | cancelled hn h => exact hu.of_cancelled hn h
  | died h => exact (hu.note rfl).of_untimed h

/-- The binder is asked before anything that could be a setback. -/
theorem of_ventured (h : Ventured s t) (hs : Punctual d s)
    (hrested : ∀ g, s.journal.command? = some (.retryElapsed g) → s.journal.Rested d s.clock) :
    Punctual d t := by
  cases h with
  | errands h => exact hs.of_errands h
  | asked h ht =>
    refine Punctual.of_errands ht ((hs.of_untimed h).record rfl fun g _ hg => ?_)
    rw [Journal.command?_of_growsBy h.journal] at hg
    rw [h.clock]
    exact Journal.rested_of_growsBy h.journal (hrested g hg)

/-! ## Steps -/

/-- A timer that fires leaves the delay behind it. -/
theorem of_fire (hs : Punctual d s) {x : Timer} (hx : x ∈ s.timers) (hdue : x.due ≤ s.clock) :
    Punctual d (s.fire x) := by
  obtain ⟨inbox, journal, heq, hinbox, hjournal⟩ := System.exists_fire_eq s x
  have harmed := hs.armed.of_fire hx
  rw [heq] at harmed ⊢
  exact {
    armed := harmed
    delay := hs.delay
    awaiting := (Journal.awaiting_of_growsBy hjournal).trans hs.awaiting
    past := Journal.past_of_growsBy hjournal hs.past
    timers := fun y hy => Journal.rested_of_growsBy hjournal
      (hs.timers y (List.mem_of_mem_erase hy))
    elapsed := by
      intro g hg hmem
      refine Journal.rested_of_growsBy hjournal ?_
      rcases hinbox _ hmem with hmem | -
      · exact hs.elapsed g hg hmem
      · exact (hs.timers x hx).mono hdue
    spaced := Journal.spaced_of_growsBy hjournal hs.spaced }

theorem of_taken {c : Command} {rest : List Command} (hs : Punctual d s) (hi : s.inbox = c :: rest)
    (hc : ∀ g, s.loop.retry = some g → c ≠ .retryElapsed g) :
    Punctual d { s with inbox := rest } :=
  { hs with
    armed := hs.armed.of_taken hi hc
    elapsed := fun g hg hmem => hs.elapsed g hg (hi ▸ List.mem_cons_of_mem _ hmem) }

/-- The retry that is due is used up before the binder is asked. -/
theorem of_used {g : Nat} {rest : List Command} (hs : Punctual d s)
    (hi : s.inbox = .retryElapsed g :: rest) (hr : s.loop.retry = some g) :
    Punctual d (({ s with inbox := rest, loop.retry := none }.note
      (.received (.retryElapsed g))).note .retrying) where
  armed := ((hs.armed.of_used hi hr).record _).record _
  delay := hs.delay
  awaiting := rfl
  past := Journal.past_skip (Journal.past_skip hs.past rfl) rfl
  timers x hx := ((hs.timers x hx).skip rfl).skip rfl
  elapsed := nofun
  spaced := (hs.spaced.skip rfl).skip rfl

theorem of_stop (hs : Punctual d s) : Punctual d s.stop :=
  { hs with
    armed := hs.armed.of_stop
    elapsed := nofun }

/-- Each step keeps the delay. -/
theorem of_timed (h : Timed s t) (hs : Punctual d s) : Punctual d t := by
  cases h with
  | untimed h => exact hs.of_untimed h
  | fired hx hdue => exact hs.of_fire hx hdue
  | waited span =>
    have hclock : s.clock ≤ (s.setClock (s.clock + span)).clock := Nat.le_max_left _ _
    exact { hs with
      armed := { hs.armed with }
      past := fun r hr hsetback => Nat.le_trans (hs.past r hr hsetback) hclock
      elapsed := fun g hg hmem => (hs.elapsed g hg hmem).mono hclock }
  | @processed c _ _ hi hc h =>
    refine ((hs.of_taken hi fun g _ => hc g).note (n := .received c) rfl).of_ventured h ?_
    exact fun g hg => absurd (Option.some.inj hg) (hc g)
  | ignored hi hr h =>
    refine ((hs.of_taken hi fun g hg heq => hr ?_).note rfl).of_untimed h
    rw [hg, Command.retryElapsed.inj heq]
  | @retried g _ _ hi hr h =>
    refine (hs.of_used hi hr).of_ventured h fun _ _ => ?_
    exact ((hs.elapsed g hr (by simp [hi])).skip rfl).skip rfl
  | shutDown hi h => exact (((hs.of_taken hi fun _ _ => nofun).note rfl).of_errands h).of_stop
  | closed _ h => exact ((hs.note rfl).of_errands h).of_stop

end Punctual

/-- In each reachable state the delay is kept, and the scheduled retry is going to keep it. -/
theorem Reachable.punctual (hs : Reachable host s) :
    Punctual s.config.retryDelay.toNat s := by
  induction hs with
  | @spawn x c w hc =>
    have hspawn : Reachable host (System.spawn x c w) := .spawn x c w hc
    exact {
      armed := hspawn.armed
      delay := rfl
      awaiting := rfl
      past := Journal.past_skip (List.forall_mem_nil _) rfl
      timers := List.forall_mem_nil _
      elapsed := nofun
      spaced := Journal.spaced_nil.skip rfl }
  | step hs a ih =>
    rw [System.config_step hs.poised.toTidy a]
    exact ih.of_timed (System.timed_step hs a)

/-- The journal knows whether a reconnect is scheduled; and a bind that is tried because one is due
comes no earlier than the delay after each setback that found none scheduled, in whatever way
requests, connections, deaths, signals and other retries came between. -/
theorem reconnects_keep_delay (hs : Reachable host s) :
    s.journal.awaiting = s.loop.retry.isSome ∧
    ∀ (newer : Journal) (b : Record) (older : Journal) (g : Nat), s.journal = newer ++ b :: older →
      b.fact.isBind = true → older.command? = some (.retryElapsed g) →
      ∀ (mid : Journal) (r : Record) (oldest : Journal), older = mid ++ r :: oldest →
        r.fact.isSetback = true → oldest.awaiting = false →
        r.time + s.config.retryDelay.toNat ≤ b.time := by
  have hpunctual := hs.punctual
  refine ⟨hpunctual.awaiting, fun newer b older g h hb hc mid r oldest hr hsetback hfree => ?_⟩
  exact hpunctual.spaced newer b older g h hb hc mid r oldest hr hsetback hfree

/-- A supervisor whose first bind was turned down. A caller did not wait for the reconnect, and the
connection that was made then died just before the reconnect was due. -/
def Scenario.impatient : System World :=
  (System.spawn ⟨⟨0⟩, ⟨"music"⟩, ⟨"player"⟩⟩ {}
    { script := [{ mode := .reject "busy" }], transports := [{}] }).run Scenario.host
    [.turn, .act (.deed (.ask (.setEnabled true))), .turn, .wait 500,
      .act (.deed (.ask (.setEnabled true))), .turn,
      .act (.deed (.report (.connected ⟨2⟩ ⟨0⟩))), .turn, .wait 400,
      .act (.deed (.report (.died ⟨2⟩))), .turn, .wait 100, .fire ⟨1, 1000⟩, .turn]

theorem Scenario.reachable_impatient : Reachable Scenario.host impatient :=
  (Reachable.spawn _ _ _ rfl).run _

/-- The delay has passed since the bind that was turned down first. -/
theorem impatient_waited_for_first_setback : ∃ b r : Record,
    b ∈ Scenario.impatient.journal ∧ b.fact.isBind = true ∧
    r ∈ Scenario.impatient.journal ∧ r.fact.isSetback = true ∧ r.time + 1000 ≤ b.time := by
  obtain ⟨-, hdelay⟩ := reconnects_keep_delay Scenario.reachable_impatient
  have h := hdelay (Scenario.impatient.journal.take 1) _ (Scenario.impatient.journal.drop 2) 1 rfl
    rfl rfl ((Scenario.impatient.journal.drop 2).take 27) _ (Scenario.impatient.journal.drop 30)
    rfl rfl rfl
  exact ⟨_, _, List.mem_of_getElem? (i := 1) rfl, rfl, List.mem_of_getElem? (i := 29) rfl, rfl, h⟩

/-- But the session died a tenth of the delay before the bind that followed. -/
theorem reconnect_is_early :
    ¬∀ (newer : Journal) (b : Record) (older : Journal) (g : Nat),
      Scenario.impatient.journal = newer ++ b :: older → b.fact.isBind = true →
      older.command? = some (.retryElapsed g) → ∀ r ∈ older, r.fact.isSetback = true →
        r.time + Scenario.impatient.config.retryDelay.toNat ≤ b.time := by
  intro h
  have hearly := h (Scenario.impatient.journal.take 1) _ (Scenario.impatient.journal.drop 2) 1 rfl
    rfl rfl _ (List.mem_of_getElem? (i := 10) rfl) rfl
  exact absurd hearly (by decide)

end Supervision
