import Supervision.Proofs.Abandonment
import Supervision.Proofs.Flushing
import Supervision.Proofs.Timekeeping

/-!
# At most one reconnect

A scheduled retry has a generation, and is on its way in one of two forms: as an armed timer, or,
once that fired, as a command in the inbox. The loop holds the generation of at most one retry, and
`Armed` says that this one is on its way once while somebody holds on to the supervisor, that there
are no timers for any other, and that no generation is on its way that was not given out.

A retry that was taken back after its timer fired is still in the inbox, and the loop may have
scheduled another one since. But generations are given out in order, and what the loop holds later
is what it holds now or newer than all that was given out (`Aged`): a retry that was let go of is
never held again, and is ignored when the loop comes to it (`at_most_one_reconnect`).
-/

namespace Supervision

variable {W : Type} {host : Host W} {s t u : System W} {g : Nat}

/-- How often a retry is on its way, by an armed timer or as a command in the inbox. -/
def System.underway (s : System W) (g : Nat) : Nat :=
  (s.timers.map Timer.generation).count g + s.inbox.count (.retryElapsed g)

/-- What is on its way, against the retry that the loop holds. -/
structure Armed (s : System W) : Prop where
  timers : ∀ x ∈ s.timers, s.loop.retry = some x.generation
  issued : ∀ g, s.loop.retry = some g ∨ .retryElapsed g ∈ s.inbox → g ≤ s.loop.generation
  single : ∀ g, s.loop.retry = some g → s.underway g ≤ 1
  alive : s.phase ≠ .stopped → s.isHeld = true → ∀ g, s.loop.retry = some g → 0 < s.underway g

namespace Armed

/-! ## Errands -/

/-- Without a scheduled retry no timer is armed. -/
theorem timers_eq_nil (hs : Armed s) (hr : s.loop.retry = none) : s.timers = [] := by
  refine List.eq_nil_iff_forall_not_mem.2 fun x hx => ?_
  cases hr.symm.trans (hs.timers x hx)

/-- All timers are for the scheduled retry, which is underway by them and by commands. -/
theorem underway_eq (hs : Armed s) (hr : s.loop.retry = some g) :
    s.underway g = s.timers.length + s.inbox.count (.retryElapsed g) := by
  rw [System.underway, List.count_eq_length.2, List.length_map]
  intro g' hg'
  obtain ⟨x, hx, rfl⟩ := List.mem_map.1 hg'
  exact Option.some.inj (hr.symm.trans (hs.timers x hx))

theorem record (hs : Armed s) (f : Fact) : Armed (s.record f) := { hs with }

/-- What leaves the retry alone leaves it on its way. -/
theorem of_untimed (h : Untimed s t) (hs : Armed s) : Armed t := by
  obtain ⟨new, hinbox, hnew⟩ := h.inbox
  have hunderway : ∀ g, t.underway g = s.underway g := by
    intro g
    rw [System.underway, h.timers, hinbox, List.count_append, List.count_eq_zero.2 (hnew g),
      Nat.add_zero]
    rfl
  constructor
  · rw [h.timers, h.retry]
    exact hs.timers
  · intro g hg
    rw [h.retry, hinbox, List.mem_append] at hg
    rw [h.generation]
    exact hs.issued g (hg.imp_right fun hg => hg.resolve_right (hnew g))
  · intro g hg
    rw [hunderway]
    exact hs.single g (h.retry ▸ hg)
  · intro hopen hheld g hg
    rw [hunderway]
    exact hs.alive (fun hstopped => hopen (h.stopped hstopped)) (h.held hheld) g (h.retry ▸ hg)

/-- All timers are for the retry that is taken back. -/
theorem cancelRetry_eq (hs : Armed s) :
    s.cancelRetry = { s with loop.retry := none, timers := [] } := by
  unfold System.cancelRetry
  split
  · rename_i hr
    rw [← hr, ← hs.timers_eq_nil hr]
  · rename_i g hr
    have htimers : s.timers.filter (fun x => x.generation != g) = [] := by
      refine List.filter_eq_nil_iff.2 fun x hx => ?_
      have hg := Option.some.inj (hr.symm.trans (hs.timers x hx))
      simp [hg]
    rw [htimers]

/-- A retry that is taken back leaves no timer behind. -/
theorem of_cancelRetry (hs : Armed s) : Armed s.cancelRetry := by
  rw [hs.cancelRetry_eq]
  exact {
    timers := by simp
    issued := fun g hg => hs.issued g (.inr (hg.resolve_left nofun))
    single := nofun
    alive := nofun }

/-- The next generation is not on its way yet. -/
theorem of_scheduleRetry (hs : Armed s) (hr : s.loop.retry = none) : Armed s.scheduleRetry := by
  have hinbox : s.inbox.count (.retryElapsed (s.loop.generation + 1)) = 0 := by
    refine List.count_eq_zero.2 fun hmem => ?_
    have := hs.issued _ (.inr hmem)
    omega
  have hunderway : s.scheduleRetry.underway (s.loop.generation + 1) = 1 := by
    rw [System.scheduleRetry_eq hr, hs.timers_eq_nil hr]
    simp [System.underway, System.note, System.record, hinbox]
  rw [System.scheduleRetry_eq hr, hs.timers_eq_nil hr] at hunderway ⊢
  constructor
  · intro x hx
    obtain rfl := List.mem_singleton.1 hx
    rfl
  · rintro g (hg | hg)
    · exact Nat.le_of_eq (Option.some.inj hg).symm
    · exact Nat.le_succ_of_le (hs.issued g (.inr hg))
  · intro g hg
    obtain rfl := Option.some.inj hg
    omega
  · intro _ _ g hg
    obtain rfl := Option.some.inj hg
    omega

/-- Each errand leaves what is on its way in order. -/
theorem of_errand (h : Errand s t) (hs : Armed s) : Armed t := by
  cases h with
  | scheduled hr => exact hs.of_scheduleRetry hr
  | cancelled _ h => exact (of_untimed h (hs.record _)).of_cancelRetry
  | died h => exact of_untimed h (hs.record _)

theorem of_errands (h : Errands s t) (hs : Armed s) : Armed t :=
  h.induct hs (fun _ _ h hs => of_untimed h hs) fun _ _ h hs => of_errand h hs

theorem of_ventured (h : Ventured s t) (hs : Armed s) : Armed t := by
  cases h with
  | errands h => exact of_errands h hs
  | asked h ht => exact of_errands ht ((of_untimed h hs).record _)

/-! ## Steps -/

/-- A timer that is armed is one of those that are on their way. -/
theorem underway_erase {x : Timer} (hx : x ∈ s.timers) (g : Nat) :
    s.underway g =
      ((s.timers.erase x).map Timer.generation).count g + [x.generation].count g +
        s.inbox.count (.retryElapsed g) := by
  have h := ((List.perm_cons_erase hx).map Timer.generation).count_eq g
  rw [System.underway, h, List.map_cons, ← List.singleton_append, List.count_append,
    Nat.add_comm ([x.generation].count g)]

/-- A timer may be gone if nobody is left to schedule for. -/
theorem erase (hs : Armed s) {x : Timer} (hx : x ∈ s.timers)
    (hgone : s.phase = .stopped ∨ s.isHeld = false) :
    Armed { s with timers := s.timers.erase x } where
  timers y hy := hs.timers y (List.mem_of_mem_erase hy)
  issued := hs.issued
  single g hg := by
    have := hs.single g hg
    rw [underway_erase hx] at this
    simp only [System.underway]
    omega
  alive hopen hheld := by
    rcases hgone with hphase | hgone
    · exact absurd hphase hopen
    · cases hgone.symm.trans hheld

/-- A timer that becomes a command is on its way as before. -/
theorem underway_enqueue {x : Timer} (hx : x ∈ s.timers) (g : Nat) :
    (System.enqueue { s with timers := s.timers.erase x } (.retryElapsed x.generation)).underway g =
      s.underway g := by
  rw [underway_erase hx]
  by_cases hg : x.generation = g
  · simp [System.underway, System.enqueue, hg]
    omega
  · simp [System.underway, System.enqueue, hg]

/-- A timer that fires is replaced by a command; nobody is left to schedule for if that is not
accepted. -/
theorem of_fire (hs : Armed s) {x : Timer} (hx : x ∈ s.timers) : Armed (s.fire x) := by
  unfold System.fire System.notify
  split
  · rename_i hheld
    have hheld : s.isHeld = false := by simpa [System.isHeld] using hheld
    exact (hs.erase hx (.inr hheld)).record _
  split
  · constructor
    · exact fun y hy => hs.timers y (List.mem_of_mem_erase hy)
    · rintro g (hg | hg)
      · exact hs.issued g (.inl hg)
      rcases List.mem_append.1 hg with hg | hg
      · exact hs.issued g (.inr hg)
      obtain rfl := Command.retryElapsed.inj (List.mem_singleton.1 hg)
      exact hs.issued _ (.inl (hs.timers x hx))
    · intro g hg
      rw [underway_enqueue hx]
      exact hs.single g hg
    · intro hopen hheld g hg
      rw [underway_enqueue hx]
      exact hs.alive hopen hheld g hg
  · rename_i hclosed
    exact hs.erase hx (.inl (by simpa [System.isOpen] using hclosed))

/-- A command that is taken out of the inbox leaves all retries that it is not. -/
theorem of_taken {c : Command} {rest : List Command} (hs : Armed s) (hi : s.inbox = c :: rest)
    (hc : ∀ g, s.loop.retry = some g → c ≠ .retryElapsed g) : Armed { s with inbox := rest } := by
  have hunderway : ∀ g, s.loop.retry = some g →
      System.underway { s with inbox := rest } g = s.underway g := by
    intro g hg
    rw [System.underway, System.underway, hi, List.count_cons_of_ne (hc g hg)]
  constructor
  · exact hs.timers
  · intro g hg
    exact hs.issued g (hg.imp_right fun hg => by rw [hi]; exact List.mem_cons_of_mem _ hg)
  · intro g hg
    rw [hunderway g hg]
    exact hs.single g hg
  · intro hopen hheld g hg
    rw [hunderway g hg]
    exact hs.alive hopen hheld g hg

/-- The retry that is used up was on its way as a command, and so not by a timer. -/
theorem of_used {rest : List Command} (hs : Armed s) (hi : s.inbox = .retryElapsed g :: rest)
    (hr : s.loop.retry = some g) : Armed { s with inbox := rest, loop.retry := none } := by
  have htimers : s.timers = [] := by
    have hsingle := hs.single g hr
    rw [hs.underway_eq hr, hi, List.count_cons_self] at hsingle
    exact List.length_eq_zero_iff.1 (by omega)
  exact {
    timers := by simp [htimers]
    issued := fun g' hg' => hs.issued g' <| .inr <| by
      rw [hi]
      exact List.mem_cons_of_mem _ (hg'.resolve_left nofun)
    single := nofun
    alive := nofun }

/-- Nothing needs to be on its way once the loop has stopped. -/
theorem of_stop (hs : Armed s) : Armed s.stop where
  timers := hs.timers
  issued g hg := hs.issued g (.inl (hg.resolve_right List.not_mem_nil))
  single g hg := Nat.le_trans (by simp [System.underway, System.stop]) (hs.single g hg)
  alive hopen := absurd rfl hopen

/-- Each step leaves what is on its way in order. -/
theorem of_timed (h : Timed s t) (hs : Armed s) : Armed t := by
  cases h with
  | untimed h => exact of_untimed h hs
  | fired hx => exact hs.of_fire hx
  | waited => exact { hs with }
  | processed hi hc h => exact of_ventured h ((hs.of_taken hi fun g _ => hc g).record _)
  | ignored hi hr h =>
    refine of_untimed h ((hs.of_taken hi fun g hg heq => hr ?_).record _)
    rw [hg, Command.retryElapsed.inj heq]
  | retried hi hr h => exact of_ventured h (((hs.of_used hi hr).record _).record _)
  | shutDown hi h => exact (of_errands h ((hs.of_taken hi fun _ _ => nofun).record _)).of_stop
  | closed _ h => exact (of_errands h (hs.record _)).of_stop

end Armed

/-- In each reachable state, exactly the scheduled retry is on its way. -/
theorem Reachable.armed (hs : Reachable host s) : Armed s := by
  induction hs with
  | spawn =>
    exact {
      timers := nofun
      issued := fun g hg => by simp [System.spawn, System.note, System.record] at hg
      single := nofun
      alive := nofun }
  | step hs a ih => exact ih.of_timed (System.timed_step hs a)

/-! ## Generations -/

/-- The retry that is held is the one of before, or newer than all that were scheduled then. -/
structure Aged (s t : System W) : Prop where
  generation : s.loop.generation ≤ t.loop.generation
  retry : ∀ g, t.loop.retry = some g → s.loop.retry = some g ∨ s.loop.generation < g

namespace Aged

theorem refl (s : System W) : Aged s s := ⟨Nat.le_refl _, fun _ => .inl⟩

theorem trans (h : Aged s t) (h' : Aged t u) : Aged s u where
  generation := Nat.le_trans h.generation h'.generation
  retry g hg := (h'.retry g hg).elim (h.retry g) fun hlt =>
    .inr (Nat.lt_of_le_of_lt h.generation hlt)

theorem of_untimed (h : Untimed s t) : Aged s t :=
  ⟨Nat.le_of_eq h.generation.symm, fun _ hg => .inl (h.retry ▸ hg)⟩

/-- To take a retry back schedules none. -/
theorem of_cancelRetry (s : System W) : Aged s s.cancelRetry := by
  unfold System.cancelRetry
  split
  · exact .refl s
  · exact ⟨Nat.le_refl _, nofun⟩

/-- A retry is scheduled with a generation of its own. -/
theorem of_errand (h : Errand s t) : Aged s t := by
  cases h with
  | scheduled hr =>
    rw [System.scheduleRetry_eq hr]
    refine ⟨Nat.le_succ _, fun g hg => .inr ?_⟩
    obtain rfl := Option.some.inj hg
    exact Nat.lt_succ_self _
  | @cancelled n _ _ h =>
    have hnote : Aged s (s.note n) := { Aged.refl s with }
    exact (hnote.trans (of_untimed h)).trans (of_cancelRetry _)
  | @died token cause _ h =>
    have hnote : Aged s (s.note (.sessionDied token cause)) := { Aged.refl s with }
    exact hnote.trans (of_untimed h)

theorem of_errands (h : Errands s t) : Aged s t :=
  h.induct (motive := Aged s) (.refl s) (fun _ _ h hs => hs.trans (of_untimed h))
    fun _ _ h hs => hs.trans (of_errand h)

theorem of_ventured (h : Ventured s t) : Aged s t := by
  cases h with
  | errands h => exact of_errands h
  | @asked q a v _ h ht =>
    have hcall : Aged v (v.record (.call (.bind q a))) := { Aged.refl v with }
    exact ((of_untimed h).trans hcall).trans (of_errands ht)

/-- No step brings back a retry that was let go of. -/
theorem of_timed (h : Timed s t) : Aged s t := by
  have hnote : ∀ (f : Fact) (rest : List Command), Aged s ({ s with inbox := rest }.record f) :=
    fun _ _ => { Aged.refl s with }
  have hstop : ∀ {u : System W}, Aged s u → Aged s u.stop := fun hu => { hu with }
  have hused : ∀ (g : Nat) (rest : List Command), Aged s (({ s with
      inbox := rest, loop.retry := none }.note (.received (.retryElapsed g))).note .retrying) :=
    fun _ _ => ⟨Nat.le_refl _, nofun⟩
  cases h with
  | untimed h => exact of_untimed h
  | fired =>
    unfold System.fire System.notify
    split
    · exact { Aged.refl s with }
    split <;> exact { Aged.refl s with }
  | waited => exact { Aged.refl s with }
  | processed _ _ h => exact (hnote _ _).trans (of_ventured h)
  | ignored _ _ h => exact (hnote _ _).trans (of_untimed h)
  | retried _ _ h => exact (hused _ _).trans (of_ventured h)
  | shutDown _ h => exact hstop ((hnote _ _).trans (of_errands h))
  | closed _ h => exact hstop ((hnote _ s.inbox).trans (of_errands h))

end Aged

theorem Reachable.aged (hs : Reachable host s) (as : List (Step W)) : Aged s (s.run host as) := by
  induction as generalizing s with
  | nil => exact .refl s
  | cons a as ih => exact (Aged.of_timed (System.timed_step hs a)).trans (ih (hs.step a))

/-- A retry that was let go of is never held again, and is ignored whenever it is due. -/
theorem Reachable.let_go (hs : Reachable host s) (hg : g ≤ s.loop.generation)
    (hr : s.loop.retry ≠ some g) (as : List (Step W)) :
    (s.run host as).loop.retry ≠ some g ∧
    ∀ b, (s.run host as).command? b = some (.retryElapsed g) →
      Ignored (.retryElapsed g) (s.run host as) ((s.run host as).step host b) := by
  have hlater : (s.run host as).loop.retry ≠ some g := by
    intro hlater
    rcases (hs.aged as).retry g hlater with h | h
    · exact hr h
    · omega
  refine ⟨hlater, fun b hb => ?_⟩
  refine System.ignored_step (hs.run as) (.retryIgnored g) hb nofun fun v hv => ?_
  exact if_neg (hv ▸ hlater)

/-! ## Retries that are taken back -/

/-- The step takes back the scheduled retry: no connection is wanted any more, or a flush ends, at
once or with the connection it waited for, or the loop stops. -/
def TakesBack (host : Host W) (s : System W) (a : Step W) : Prop :=
  s.command? a = some (.setEnabled false) ∨
  s.command? a = some .flushAndUnbind ∧ s.loop.state = .connected ∨
  (∃ token transport, s.command? a = some (.connected token transport) ∧
    s.loop.flushing = true ∧ s.loop.attempt = some token ∧ s.loop.state = .connecting) ∨
  s.phase = .running ∧ (s.step host a).phase = .stopped

/-- A loop that stops takes its retry back. -/
theorem System.retry_of_stopped (hs : s.phase = .running) {a : Step W}
    (ha : (s.step host a).phase = .stopped) : (s.step host a).loop.retry = none := by
  have h := turned_step host s a
  generalize s.command? a = c?, s.step host a = t at h ha ⊢
  cases h with
  | offstage h => cases hs.symm.trans (h.phase.symm.trans ha)
  | started => cases ha
  | @processed c rest _ _ hc =>
    have hphase : ({ s with inbox := rest }.process host c).phase = s.phase :=
      (process_moves host { s with inbox := rest } hc).phase_eq
    cases hs.symm.trans (hphase.symm.trans ha)
  | shutDown => simp [shutDown, stop]
  | closed => simp [close, stop]

/-- After a step that takes the retry back, none is scheduled. -/
theorem TakesBack.retry_eq_none {a : Step W} (ha : TakesBack host s a) :
    (s.step host a).loop.retry = none := by
  rcases ha with ha | ⟨ha, hst⟩ | ⟨_, _, ha, hf, hattempt, hst⟩ | ⟨hs, ha⟩
  · exact (System.disconnected_disable_step host ha).retry
  · exact (System.disconnected_flush_step host ha hst).retry
  · exact (System.disconnected_connected_step host hf ha hattempt hst).retry
  · exact System.retry_of_stopped hs ha

/-- While somebody holds on to a supervisor that runs, the retry that the loop holds is on its way
once, as an armed timer or as a command, and without one no timer is armed. Generations are never
given out twice: what is in the inbox was given out, and what the loop holds later is what it holds
now or newer. So a retry in the inbox that is not held is never held again, and is ignored whenever
it is due; and so is each retry that was held when it was taken back, whether or not its timer had
fired. -/
theorem at_most_one_reconnect (hs : Reachable host s) (hopen : s.phase ≠ .stopped)
    (hheld : s.isHeld = true) :
    (∀ g, s.loop.retry = some g → (∀ x ∈ s.timers, x.generation = g) ∧
      (s.timers.length = 1 ∧ .retryElapsed g ∉ s.inbox ∨
        s.timers = [] ∧ s.inbox.count (.retryElapsed g) = 1)) ∧
    (s.loop.retry = none → s.timers = []) ∧
    (∀ g, .retryElapsed g ∈ s.inbox → g ≤ s.loop.generation) ∧
    (∀ as, s.loop.generation ≤ (s.run host as).loop.generation ∧
      ∀ g, (s.run host as).loop.retry = some g →
        s.loop.retry = some g ∨ s.loop.generation < g) ∧
    (∀ g, .retryElapsed g ∈ s.inbox → s.loop.retry ≠ some g → ∀ as,
      (s.run host as).loop.retry ≠ some g ∧
      ∀ b, (s.run host as).command? b = some (.retryElapsed g) →
        Ignored (.retryElapsed g) (s.run host as) ((s.run host as).step host b)) ∧
    (∀ g a, s.loop.retry = some g → TakesBack host s a →
      (s.step host a).loop.retry = none ∧ ∀ as,
        ((s.step host a).run host as).loop.retry ≠ some g ∧
        ∀ b, ((s.step host a).run host as).command? b = some (.retryElapsed g) →
          Ignored (.retryElapsed g) ((s.step host a).run host as)
            (((s.step host a).run host as).step host b)) := by
  have harmed := hs.armed
  refine ⟨fun g hg => ?_, harmed.timers_eq_nil, fun g hg => harmed.issued g (.inr hg),
    fun as => ?_, fun g hmem hg as => hs.let_go (harmed.issued g (.inr hmem)) hg as,
    fun g a hg ha => ?_⟩
  · have htimers : ∀ x ∈ s.timers, x.generation = g := fun x hx =>
      Option.some.inj ((harmed.timers x hx).symm.trans hg)
    refine ⟨htimers, ?_⟩
    have hsingle := harmed.single g hg
    have halive := harmed.alive hopen hheld g hg
    rw [harmed.underway_eq hg] at hsingle halive
    rcases Nat.eq_zero_or_pos s.timers.length with hnone | hsome
    · exact .inr ⟨List.length_eq_zero_iff.1 hnone, by omega⟩
    · exact .inl ⟨by omega, List.count_eq_zero.1 (by omega)⟩
  · exact ⟨(hs.aged as).generation, (hs.aged as).retry⟩
  · have hnone := ha.retry_eq_none
    have hissued := Nat.le_trans (harmed.issued g (.inl hg)) (hs.aged [a]).generation
    exact ⟨hnone, (hs.step a).let_go hissued (by simp [hnone])⟩

/-- A supervisor whose bind was turned down, and that was disabled and enabled again just before
the retry was due; the second bind was turned down too. -/
def Scenario.wavering : System World :=
  (System.spawn ⟨⟨0⟩, ⟨"music"⟩, ⟨"player"⟩⟩ {} { mode := .reject "busy" }).run Scenario.host
    [.turn, .act (.deed (.ask (.setEnabled true))), .turn, .wait 1000,
      .act (.deed (.ask (.setEnabled false))), .act (.deed (.ask (.setEnabled true))),
      .fire ⟨1, 1000⟩, .turn, .turn]

theorem Scenario.reachable_wavering : Reachable Scenario.host wavering :=
  (Reachable.spawn _ _ _ rfl).run _

theorem wavering_ignores_first_reconnect :
    Scenario.wavering.loop.retry = some 2 ∧ Scenario.wavering.timers.length = 1 ∧
    .retryElapsed 1 ∈ Scenario.wavering.inbox ∧
    Ignored (.retryElapsed 1) Scenario.wavering (Scenario.wavering.step Scenario.host .turn) := by
  have hretry : Scenario.wavering.loop.retry = some 2 := rfl
  have hinbox : .retryElapsed 1 ∈ Scenario.wavering.inbox := List.mem_of_getElem? (i := 0) rfl
  obtain ⟨hone, -, -, -, hstale, -⟩ :=
    at_most_one_reconnect Scenario.reachable_wavering (by decide) rfl
  obtain ⟨hlength, -⟩ | ⟨hnone, -⟩ := (hone 2 hretry).2
  · obtain ⟨-, hignored⟩ := hstale 1 hinbox (by simp [hretry]) []
    exact ⟨hretry, hlength, hinbox, hignored .turn rfl⟩
  · cases hnone

end Supervision
