import Supervision.Proofs.Flushing
import Supervision.Proofs.Timekeeping

/-!
# The fields of the loop fit together

Between commands the fields of the loop say the same of the connection (`Consistent`): there is a
binding exactly while there is an attempt, there is an attempt exactly while one is made or led to a
session, and the session is that of the attempt; and what the loop counts, schedules and remembers
fits its state and whether a connection is wanted. So does each status that was published until the
loop stops (`loop_is_consistent`).

Some branches of the loop are for fields that do not fit: a binding is left from an earlier attempt,
a retry is due or a session dies although no connection is wanted. They are never taken. The first
two would say so in the journal (`Fact.isStray`). The third would be seen there by what is missing:
after a death the registry is asked, by the same command, whether the extension is still there.
-/

namespace Supervision

variable {W : Type} {host : Host W} {s t : System W}

/-! ## The target of a click -/

/-- A target is stored exactly if a click waits. -/
def Pending.Whole (p : Pending) : Prop := p.target.isSome = p.contains .click

namespace Pending.Whole

variable {p q : Pending}

/-- A click that is deferred brings its target. -/
theorem defer (hp : p.Whole) (e : LifecycleEvent) : (p.defer e).Whole := by
  rw [Whole, contains_defer]
  cases e with
  | click target => rfl
  | _ => exact hp

theorem of_eq (hp : p.Whole) (hkinds : q.kinds = p.kinds) (htarget : q.target = p.target) :
    q.Whole := by
  rw [Whole, contains, hkinds, htarget]
  exact hp

theorem heed (hp : p.Whole) (e : LifecycleEvent) : (p.heed e).Whole :=
  hp.of_eq (kinds_heed p e) (target_heed p e)

theorem quell (hp : p.Whole) (e : LifecycleEvent) : (p.quell e).Whole :=
  hp.of_eq (kinds_quell p e) (target_quell p e)

/-- What a caller tells is deferred as a whole or not at all. -/
theorem of_told {e : LifecycleEvent} (hs : s.pending.Whole) (h : Told s e t) :
    t.pending.Whole := by
  cases h with
  | untold => exact hs
  | deferred _ ht => exact ht.pending.symm ▸ (hs.heed e).defer e
  | accepted _ _ ht => exact ht.pending.symm ▸ hs.heed e
  | refused _ _ ht => exact ht.pending.symm ▸ (hs.heed e).defer e

/-- An item of a replay is deferred as a whole or not at all. -/
theorem of_replayed {x : Session} {i : Replay.Item} {o o' : System.Outcome} (hs : s.pending.Whole)
    (h : Replayed x s o i t o') : t.pending.Whole := by
  cases h with
  | discarded k => exact hs
  | kept _ ht => exact ht.pending.symm ▸ (hs.quell _).defer _
  | accepted _ hu _ ht =>
    have hp : t.pending = s.pending.quell _ := ht.pending.trans hu.pending
    exact hp.symm ▸ hs.quell _
  | @refused e u _ _ _ hu _ ht =>
    have hp : u.pending = s.pending.quell e := hu.pending
    rw [ht.pending, hp]
    exact (hs.quell e).defer e

/-- A replay starts from a drained queue, in which nothing waits and no target is stored. -/
theorem of_replay {x : Session} {o : System.Outcome} (hr : s.replay host x = (t, o)) :
    t.pending.Whole :=
  System.replay_induct (motive := fun _ t _ => t.pending.Whole) rfl (fun h hs => hs.of_replayed h)
    hr

/-- Whatever happens to the events, a target is stored exactly if a click waits. -/
theorem of_move (hs : s.pending.Whole) (h : Move host s t) : t.pending.Whole := by
  cases h with
  | still h => rwa [h.pending]
  | told h => exact hs.of_told h
  | lost h => rwa [h.pending]
  | sought _ hu =>
    exact hu.induct (motive := fun t => t.pending.Whole) hs
      (fun _ _ h hs => by rwa [h.pending]) fun _ _ _ h hs => hs.of_told h
  | made _ _ hr =>
    have h := of_replay hr
    exact h
  | refused _ _ hr _ hl =>
    have h := of_replay hr
    rw [hl.pending]
    exact h

end Pending.Whole

/-- In each reachable state a target is stored exactly if a click waits. -/
theorem Reachable.whole (hs : Reachable host s) : s.pending.Whole :=
  hs.induct (motive := fun s => s.pending.Whole) (fun _ _ _ => rfl) (fun _ _ _ h => h)
    fun _ _ h hs => hs.of_move h

/-! ## Branches that are never taken -/

/-- Facts of branches that are never taken: a binding is left from an earlier attempt, or a retry is
due although no connection is wanted. -/
def Fact.isStray : Fact → Bool
  | .note (.releasingStale _) | .note .retrySkipped => true
  | _ => false

/-- No branch was taken that is for fields that do not fit. -/
structure Journal.Straight (j : Journal) : Prop where
  kept : ∀ r ∈ j, r.fact.isStray = false
  asked : j.bereft = false

namespace Journal.Straight

variable {i j : Journal}

theorem cons {r : Record} (hj : j.Straight) (hr : r.fact.isStray = false)
    (hdeath : r.fact.isDeath = false) : Straight (r :: j) where
  kept := List.forall_mem_cons.2 ⟨hr, hj.kept⟩
  asked := by rw [bereft, hdeath, hj.asked, Bool.or_false, Bool.and_false]

/-- No milestone is written down of a branch that is never taken. -/
theorem kept_of_growsBy (h : i.GrowsBy (·.isMilestone = false) j)
    (hi : ∀ r ∈ i, r.fact.isStray = false) : ∀ r ∈ j, r.fact.isStray = false := by
  refine h.induct (motive := fun j => ∀ r ∈ j, r.fact.isStray = false) hi fun r j hr hj => ?_
  refine List.forall_mem_cons.2 ⟨?_, hj⟩
  unfold Fact.isStray
  split
  · rename_i h
    rw [h] at hr
    cases hr
  · rename_i h
    rw [h] at hr
    cases hr
  · rfl

theorem of_untimed (h : Untimed s t) (hs : s.journal.Straight) : t.journal.Straight where
  kept := kept_of_growsBy h.journal hs.kept
  asked := bereft_of_growsBy h.journal hs.asked

/-- An errand of the loop takes none: after a death the registry was asked. -/
theorem of_errand (h : Errand s t) (hs : s.journal.Straight) : t.journal.Straight := by
  cases h with
  | scheduled hr =>
    rw [System.scheduleRetry_eq hr]
    exact hs.cons rfl rfl
  | @cancelled n u hn h =>
    have hnote : (s.note n).journal.Straight := by
      rcases hn with rfl | rfl <;> exact hs.cons rfl rfl
    have hcancel : u.cancelRetry.journal = u.journal := by
      unfold System.cancelRetry
      split <;> rfl
    rw [hcancel]
    exact of_untimed h hnote
  | died h hasked =>
    refine ⟨kept_of_growsBy h.journal ?_, hasked⟩
    exact List.forall_mem_cons.2 ⟨rfl, hs.kept⟩

theorem of_errands (h : Errands s t) (hs : s.journal.Straight) : t.journal.Straight :=
  h.induct (motive := fun t => t.journal.Straight) hs (fun _ _ h hs => of_untimed h hs)
    fun _ _ h hs => of_errand h hs

/-- To ask the binder takes no such branch either. -/
theorem of_ventured (h : Ventured s t) (hs : s.journal.Straight) : t.journal.Straight := by
  cases h with
  | errands h => exact of_errands h hs
  | asked h ht => exact of_errands ht ((of_untimed h hs).cons rfl rfl)

/-- A step takes none, because the fields of the loop fit before it. -/
theorem of_timed (h : Timed s t) (hs : s.journal.Straight) : t.journal.Straight := by
  cases h with
  | untimed h => exact of_untimed h hs
  | @fired x =>
    unfold System.fire System.notify
    split
    · exact hs.cons rfl rfl
    split <;> exact hs
  | waited => exact hs
  | processed _ _ h => exact of_ventured h (hs.cons rfl rfl)
  | ignored _ _ h => exact of_untimed h (hs.cons rfl rfl)
  | retried _ _ h => exact of_ventured h ((hs.cons rfl rfl).cons rfl rfl)
  | shutDown _ h =>
    have ht := of_errands h (hs.cons rfl rfl)
    exact ht
  | closed _ h =>
    have ht := of_errands h (hs.cons rfl rfl)
    exact ht

end Journal.Straight

/-- The branches for fields that do not fit are never taken. -/
theorem Reachable.straight (hs : Reachable host s) : s.journal.Straight := by
  induction hs with
  | spawn => exact ⟨List.forall_mem_cons.2 ⟨rfl, List.forall_mem_nil _⟩, rfl⟩
  | step hs a ih => exact ih.of_timed (System.timed_step hs a)

/-! ## What was published -/

/-- Until the loop stops, all that it published was sound. -/
theorem Reachable.published_sound (hs : Reachable host s) (hopen : s.phase ≠ .stopped) :
    ∀ r ∈ s.journal, ∀ x, r.fact = .published x → x.Sound s.config.maxRetries := by
  induction hs with
  | spawn =>
    intro r hr x hx
    simp [System.spawn, System.note, System.record] at hr
    simp [hr] at hx
  | @step s hs a ih =>
    have hopen' := System.open_of_step hopen
    have hsensible := (hs.step a).sensible hopen
    have hconfig : (s.step host a).config = s.config := System.config_step hs.poised.toTidy a
    obtain ⟨new, hj, hnew⟩ := published_of_step host hs.poised.toTidy a
    intro r hr x hx
    rw [hj] at hr
    rcases List.mem_append.1 hr with hr | hr
    · rw [hnew r hr x hx, (hs.step a).status_eq]
      exact hsensible.sound
    · rw [hconfig]
      exact ih hopen' r hr x hx

/-! ## The loop -/

/-- How the fields of the loop fit together, and with the queue. -/
structure Consistent (s : System W) : Prop where
  bound : s.loop.binding.isSome = s.loop.attempt.isSome
  attempted : s.loop.attempt.isSome = true ↔
    s.loop.state = .connecting ∨ s.loop.state = .connected
  joined : s.loop.session.isSome = true ↔ s.loop.state = .connected
  current : ∀ x, s.loop.session = some x → s.loop.attempt = some x.token
  sound : s.loop.status.Sound s.config.maxRetries
  flushing : s.loop.flushing = true → s.loop.desired = true ∧ s.loop.state ≠ .connected
  click : s.pending.target.isSome = s.pending.contains .click

/-- There is a session exactly while the loop is connected, and it is that of the attempt. -/
theorem Coherent.joined (hs : Coherent s) :
    (s.loop.session.isSome = true ↔ s.loop.state = .connected) ∧
    ∀ x, s.loop.session = some x → s.loop.attempt = some x.token := by
  have hnone : s.loop.state ≠ .connected → s.loop.session = none := by
    intro hst
    cases h : s.loop.state with
    | connected => exact absurd h hst
    | connecting => exact hs.connecting h
    | _ => exact (hs.idle (by rw [h]; rfl)).2
  by_cases hst : s.loop.state = .connected
  · obtain ⟨x, hx, ha⟩ := hs.connected hst
    refine ⟨⟨fun _ => hst, fun _ => by rw [hx]; rfl⟩, fun y hy => ?_⟩
    obtain rfl := Option.some.inj (hx.symm.trans hy)
    exact ha
  · rw [hnone hst]
    exact ⟨⟨nofun, fun h => absurd h hst⟩, nofun⟩

/-- Until the loop stops its fields fit together. -/
theorem Reachable.consistent (hs : Reachable host s) (hopen : s.phase ≠ .stopped) :
    Consistent s := by
  have hsensible := hs.sensible hopen
  obtain ⟨hjoined, hcurrent⟩ := hs.coherent.joined
  exact {
    bound := hs.requested.binding.trans hs.requested.attempt.symm
    attempted := by
      rw [hs.requested.attempt]
      cases s.loop.state <;> simp [ConnectionState.isIdle]
    joined := hjoined
    current := hcurrent
    sound := hsensible.sound
    flushing := fun hf => ⟨hsensible.flushing hf, hs.poised.unflushed hf⟩
    click := hs.whole }

/-- Between commands, until the loop stops, its fields fit together, and so do those of each status
that it published. The branches for fields that do not fit are never taken: no binding is left from
an earlier attempt, no retry is skipped, and no session dies without the registry being asked for
the extension. -/
theorem loop_is_consistent (hs : Reachable host s) (hopen : s.phase ≠ .stopped) :
    Consistent s ∧
    (∀ r ∈ s.journal, ∀ x, r.fact = .published x → x.Sound s.config.maxRetries) ∧
    (∀ r ∈ s.journal, r.fact.isStray = false) ∧
    s.journal.bereft = false :=
  ⟨hs.consistent hopen, hs.published_sound hopen, hs.straight.kept, hs.straight.asked⟩

/-- A supervisor with a flush pending, whose attempt died, with a click waiting. -/
def Scenario.bereaved : System World :=
  (System.spawn ⟨⟨0⟩, ⟨"music"⟩, ⟨"player"⟩⟩ {} {}).run Scenario.host
    [.act (.tell (.click ⟨7⟩)), .act (.deed (.ask .flush)), .turn, .turn, .turn,
      .act (.deed (.report (.disconnected ⟨1⟩))), .turn]

theorem Scenario.reachable_bereaved : Reachable Scenario.host bereaved :=
  (Reachable.spawn _ _ _ rfl).run _

theorem bereaved_is_consistent :
    Scenario.bereaved.loop.flushing = true ∧ Scenario.bereaved.loop.desired = true ∧
    Scenario.bereaved.loop.attempt = none ∧ Scenario.bereaved.loop.binding.isSome = false ∧
    Scenario.bereaved.pending.target.isSome = true := by
  obtain ⟨hconsistent, -⟩ := loop_is_consistent Scenario.reachable_bereaved (by decide)
  have hflushing : Scenario.bereaved.loop.flushing = true := rfl
  have hattempt : Scenario.bereaved.loop.attempt = none := rfl
  refine ⟨hflushing, (hconsistent.flushing hflushing).1, hattempt, ?_, hconsistent.click.trans rfl⟩
  rw [hconsistent.bound, hattempt]
  rfl

end Supervision
