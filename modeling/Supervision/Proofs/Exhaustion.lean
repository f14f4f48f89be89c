import Mathlib.Data.List.Count
import Mathlib.Data.Prod.Lex
import Supervision.Proofs.Finality
import Supervision.Proofs.Punctuality
import Supervision.Proofs.Thrift

/-!
# A retry chain ends

A retry that takes effect may try a bind, which may fail and schedule the next retry; so may a death.
Without a delay all of this happens at one instant, and nothing but what the loop can afford ends it.
`System.toil` is what is left to do on the way to a time: the funds of a running loop, with the same
funds the urgent commands, the timers and the waits before them, and with the same of those all other
commands, of which nothing comes. Each step of the loop and its timers makes it less, unless the loop
counts its binds anew (`System.advance?_spends`). And the time by which the last retry is due does not
move on (`System.horizon`), so the clock need not go far.
-/

namespace Supervision

variable {W : Type} {host : Host W} {s t u : System W} {target : Nat}

/-! ## When timers are due -/

/-- No timer is due later than after one delay from now. -/
def Timely (s : System W) : Prop := ∀ x ∈ s.timers, x.due ≤ s.clock + s.config.retryDelay.toNat

namespace Timely

/-- Timers that are left alone stay timely. -/
theorem of_untimed (h : Untimed s t) (hs : Timely s) : Timely t := by
  rw [Timely, h.timers, h.clock, h.config]
  exact hs

/-- A timer is set for as long as the delay of the configuration. -/
theorem of_scheduleRetry (hs : Timely s) (hr : s.loop.retry = none) : Timely s.scheduleRetry := by
  rw [System.scheduleRetry_eq hr]
  intro x hx
  rcases List.mem_append.1 hx with hx | hx
  · exact hs x hx
  · obtain rfl := List.mem_singleton.1 hx
    exact Nat.le_refl _

/-- Timers that are disarmed need not be timely. -/
theorem of_cancelRetry (hs : Timely s) : Timely s.cancelRetry := by
  unfold System.cancelRetry
  split
  · exact hs
  · exact fun x hx => hs x (List.mem_filter.1 hx).1

theorem of_errands (h : Errands s t) (hs : Timely s) : Timely t := by
  refine h.induct hs (fun _ _ h hs => hs.of_untimed h) fun u v h hu => ?_
  cases h with
  | scheduled hr => exact hu.of_scheduleRetry hr
  | @cancelled n v hn h =>
    have hnote : Timely (u.note n) := hu
    exact (hnote.of_untimed h).of_cancelRetry
  | @died token cause v h =>
    have hnote : Timely (u.note (.sessionDied token cause)) := hu
    exact hnote.of_untimed h

theorem of_ventured (h : Ventured s t) (hs : Timely s) : Timely t := by
  cases h with
  | errands h => exact hs.of_errands h
  | @asked q a u _ h ht =>
    have hu : Timely u := hs.of_untimed h
    have hcall : Timely (u.record (.call (.bind q a))) := hu
    exact hcall.of_errands ht

/-- Each step leaves the timers timely. -/
theorem of_timed (h : Timed s t) (hs : Timely s) : Timely t := by
  have htaken (f : Fact) (rest : List Command) : Timely ({ s with inbox := rest }.record f) := hs
  cases h with
  | untimed h => exact hs.of_untimed h
  | @fired x hx hdue =>
    obtain ⟨inbox, journal, heq, -⟩ := System.exists_fire_eq s x
    rw [heq]
    exact fun y hy => hs y (List.mem_of_mem_erase hy)
  | waited span =>
    exact fun x hx => Nat.le_trans (hs x hx) (Nat.add_le_add_right (Nat.le_max_left _ _) _)
  | processed _ _ h => exact (htaken _ _).of_ventured h
  | ignored _ _ h => exact (htaken _ _).of_untimed h
  | @retried g rest _ _ _ h =>
    have hused : Timely (({ s with inbox := rest, loop.retry := none }.note
      (.received (.retryElapsed g))).note .retrying) := hs
    exact hused.of_ventured h
  | @shutDown _ u _ h =>
    have hu : Timely u := (htaken _ _).of_errands h
    exact hu
  | @closed u _ h =>
    have hu : Timely u := (htaken _ s.inbox).of_errands h
    exact hu

end Timely

/-- In each reachable state, no timer is set for longer than the delay. -/
theorem Reachable.timely (hs : Reachable host s) : Timely s := by
  induction hs with
  | spawn => exact List.forall_mem_nil _
  | step hs a ih => exact ih.of_timed (System.timed_step hs a)

/-- At most one timer is armed. -/
theorem Armed.length_timers_le (hs : Armed s) : s.timers.length ≤ 1 := by
  cases htimers : s.timers with
  | nil => exact Nat.zero_le _
  | cons x rest =>
    have hr : s.loop.retry = some x.generation := hs.timers x (by simp [htimers])
    have hsingle := hs.single x.generation hr
    rw [hs.underway_eq hr, htimers] at hsingle
    omega

/-! ## What is left to do -/

/-- How far the loop is from its stop. -/
def Phase.rank : Phase → Nat
  | .ready => 2
  | .running => 1
  | .stopped => 0

namespace System

/-- What is left to do if nothing urgent is posted any more: an urgent command is processed, a timer
comes before its command, and is waited for if it is not due. -/
def chores (s : System W) : Nat := s.urgent + 2 * s.timers.length + s.waiting

/-- What is left to do: a loop that does not stop lives on its funds, what it does without touching
them is a chore, and what is not even that has nothing posted. -/
def toil (s : System W) : Nat ×ₗ Nat ×ₗ Nat ×ₗ Nat :=
  toLex (s.phase.rank, toLex (s.funds, toLex (s.chores, s.inbox.length)))

/-- The time by which the last retry is due that may still be scheduled. -/
def horizon (s : System W) : Nat :=
  s.clock + s.config.retryDelay.toNat * (s.credit + s.waiting)

/-- A loop that starts or stops has less left to do. -/
theorem toil_lt_of_rank (h : t.phase.rank < s.phase.rank) : t.toil < s.toil :=
  Prod.Lex.toLex_lt_toLex.2 (.inl h)

/-- Otherwise it has less to do if its funds shrink, or its chores, or its inbox. -/
theorem toil_lt_of_phase (hphase : t.phase = s.phase) (hfunds : t.funds ≤ s.funds)
    (hchores : t.funds = s.funds →
      t.chores < s.chores ∨ t.chores = s.chores ∧ t.inbox.length < s.inbox.length) :
    t.toil < s.toil := by
  refine Prod.Lex.toLex_lt_toLex.2 (.inr ⟨by rw [hphase], Prod.Lex.toLex_lt_toLex.2 ?_⟩)
  rcases Nat.lt_or_eq_of_le hfunds with hlt | heq
  · exact .inl hlt
  · exact .inr ⟨heq, Prod.Lex.toLex_lt_toLex.2 (hchores heq)⟩

/-- A step on the way to a time made the toil less, and either stopped the loop or left the horizon
where it was. -/
def Spends (s t : System W) : Prop :=
  t.toil < s.toil ∧ (t.phase = .stopped ∨ t.horizon ≤ s.horizon)

/-- A command that is processed is paid for, or it was a chore, or nothing comes of it. -/
theorem spends_process (hs : Tidy s) (hquiet : host.RefusesQuietly) {c : Command}
    {rest : List Command} (hi : s.inbox = c :: rest) (hc : c ≠ .shutdown)
    (hrenews : s.renews c = false) : s.Spends ({ s with inbox := rest }.process host c) := by
  have htidy : Tidy { s with inbox := rest } := { hs with }
  have hrenews : System.renews { s with inbox := rest } c = false := by
    cases c <;> exact hrenews
  have h := thrifty_process host htidy hc hrenews
  have hidle (hurgent : c.isUrgent = false) := idle_process host hc hurgent hrenews
  have hphase : ({ s with inbox := rest }.process host c).phase = s.phase :=
    (stirred_process host { s with inbox := rest } hc).steady.phase
  generalize { s with inbox := rest }.process host c = t at h hidle hphase ⊢
  refine ⟨toil_lt_of_phase hphase h.funds fun hfunds => ?_, .inr ?_⟩
  · obtain ⟨hposted, htimers⟩ := h.frugal hquiet hfunds
    have hwaiting : t.waiting = s.waiting := by rw [waiting, waiting, htimers, h.clock]
    have hcount : s.urgent = t.urgent + c.isUrgent.toNat := by
      rw [hposted, urgent, urgent, hi, List.countP_cons]
      cases c.isUrgent <;> rfl
    rw [chores, chores, hwaiting, htimers, hcount]
    cases hurgent : c.isUrgent with
    | true => exact .inl (by simp only [Bool.toNat_true]; omega)
    | false =>
      have hinbox := (hidle hurgent).resolve_left (Nat.not_lt.2 (Nat.le_of_eq hfunds.symm))
      refine .inr ⟨rfl, ?_⟩
      rw [hinbox, hi]
      exact Nat.lt_succ_self _
  · rw [horizon, horizon, h.config, h.clock]
    exact Nat.add_le_add_left (Nat.mul_le_mul_left _ h.credit) _

/-- Each turn spends something, unless it takes up a command that renews the funds. -/
theorem spends_turn (hs : Reachable host s) (hquiet : host.RefusesQuietly)
    (hturn : s.hasTurn = true) (hrenews : (s.command? .turn).any s.renews = false) :
    s.Spends (s.turn host) := by
  unfold turn
  split <;> rename_i hp
  · exact ⟨toil_lt_of_rank (by rw [hp]; exact Nat.lt_succ_self _), .inr (Nat.le_refl _)⟩
  · simp [hasTurn, hp] at hturn
  · have hstopped {v : System W} (hv : v.phase = .stopped) : s.Spends v :=
      ⟨toil_lt_of_rank (by rw [hp, hv]; exact Nat.lt_succ_self _), .inl hv⟩
    split <;> rename_i hi
    · rename_i c rest
      by_cases hc : c = .shutdown
      · subst hc
        exact hstopped rfl
      · simp only [command?, hp, if_true, hi, List.head?_cons, Option.any_some] at hrenews
        exact spends_process hs.poised.toTidy hquiet hi hc hrenews
    · split
      · rename_i hheld
        simp [hasTurn, hp, hi, hheld] at hturn
      · exact hstopped rfl

/-- A timer that fires comes off the chores. -/
theorem spends_fire {x : Timer} (hx : x ∈ s.timers) : s.Spends (s.fire x) := by
  have hfire : ∃ inbox journal,
      s.fire x = { s with timers := s.timers.erase x, inbox := inbox, journal := journal } ∧
      inbox.countP Command.isUrgent ≤ s.urgent + 1 := by
    unfold fire notify
    split
    · exact ⟨_, _, rfl, Nat.le_succ _⟩
    split
    · exact ⟨_, _, rfl, Nat.le_of_eq List.countP_append⟩
    · exact ⟨_, _, rfl, Nat.le_succ _⟩
  obtain ⟨inbox, journal, heq, hinbox⟩ := hfire
  have hwaiting : (s.fire x).waiting ≤ s.waiting := by
    rw [heq]
    exact List.erase_sublist.countP_le
  have hlength := List.length_erase_of_mem hx
  have hpos := List.length_pos_of_mem hx
  rw [heq] at hwaiting ⊢
  refine ⟨toil_lt_of_phase rfl (Nat.le_refl _) fun _ => .inl ?_, .inr ?_⟩
  · rw [chores, chores, urgent]
    simp only [hlength]
    omega
  · exact Nat.add_le_add_left (Nat.mul_le_mul_left _ (Nat.add_le_add_left hwaiting _)) _

/-- The clock only moves on to where a timer is due, which is waited for no longer. -/
theorem spends_setClock (hs : Timely s) (hnone : s.dueTimer? = none) {d : Nat}
    (hd : s.nextDue? target = some d) : s.Spends (s.setClock d) := by
  have hwaited : ∀ y ∈ s.timers, (!y.isDue s.clock) = true := by
    simpa [dueTimer?] using hnone
  obtain ⟨x, hx, rfl⟩ : ∃ x ∈ s.timers, x.due = d :=
    List.mem_map.1 (List.mem_filter.1 (List.min?_mem hd)).1
  have hdue := hs x hx
  have hclock : (s.setClock x.due).clock = max s.clock x.due := rfl
  have hless : (s.setClock x.due).waiting < s.waiting := by
    have hall : s.waiting = s.timers.length := List.countP_eq_length.2 hwaited
    rw [hall]
    exact List.countP_lt_length_iff.2 ⟨x, hx, by simp [Timer.isDue, hclock]⟩
  refine ⟨toil_lt_of_phase rfl (Nat.le_refl _) fun _ => .inl (Nat.add_lt_add_left hless _),
    .inr ?_⟩
  have hcredit : (s.setClock x.due).credit + (s.setClock x.due).waiting + 1 ≤
      s.credit + s.waiting := Nat.add_lt_add_left hless s.credit
  have hmul := Nat.mul_le_mul_left s.config.retryDelay.toNat hcredit
  rw [Nat.mul_succ] at hmul
  change max s.clock x.due + s.config.retryDelay.toNat * _ ≤ s.horizon
  rw [horizon]
  omega

/-- Whatever happens next spends something, unless it takes up a command that renews the funds. -/
theorem advance?_spends (hs : Reachable host s) (hquiet : host.RefusesQuietly)
    (hrenews : (s.command? .turn).any s.renews = false) (h : s.advance? host target = some t) :
    s.Spends t := by
  unfold advance? at h
  split at h
  · obtain rfl := Option.some.inj h
    exact spends_turn hs hquiet ‹_› hrenews
  · split at h <;> rename_i hdue
    · obtain rfl := Option.some.inj h
      exact spends_fire (List.mem_of_find?_eq_some hdue)
    · obtain ⟨d, hd, rfl⟩ := Option.map_eq_some_iff.1 h
      exact spends_setClock hs.timely hdue hd

/-- When nothing is left to do before a time behind the horizon, nothing is left to do at all. -/
theorem idle_of_advance?_eq_none (hs : Reachable host s)
    (htarget : s.phase = .stopped ∨ s.horizon + s.config.retryDelay.toNat ≤ target)
    (h : s.advance? host target = none) : s.timers = [] ∧ s.inbox = [] := by
  by_cases hstopped : s.phase = .stopped
  · exact ⟨(hs.vacant hstopped).timers, (hs.vacant hstopped).inbox⟩
  have htarget := htarget.resolve_left hstopped
  unfold advance? at h
  split at h
  · cases h
  rename_i hturn
  split at h
  · cases h
  rename_i hnone
  have hinbox : s.inbox = [] := by
    cases hp : s.phase with
    | ready => simp [hasTurn, hp] at hturn
    | running =>
      have hidle : s.inbox = [] ∧ s.isHeld = true := by simpa [hasTurn, hp] using hturn
      exact hidle.1
    | stopped => exact absurd hp hstopped
  refine ⟨List.eq_nil_iff_forall_not_mem.2 fun x hx => ?_, hinbox⟩
  have hlate : s.clock < x.due := by
    have hx := List.find?_eq_none.1 hnone x hx
    simpa [Timer.isDue] using hx
  have hfar : target ≤ x.due := by
    have hempty := List.min?_eq_none_iff.1 (Option.map_eq_none_iff.1 h)
    have hx := List.filter_eq_nil_iff.1 hempty x.due (List.mem_map_of_mem hx)
    simpa using hx
  have hdue := hs.timely x hx
  have hwaiting : 0 < s.waiting := List.countP_pos_iff.2 ⟨x, hx, by simpa [Timer.isDue] using hlate⟩
  have hmul : s.config.retryDelay.toNat * 1 ≤
      s.config.retryDelay.toNat * (s.credit + s.waiting) := Nat.mul_le_mul_left _ (by omega)
  rw [horizon] at htarget
  omega

/-- While there is nothing to do, it does not matter how long the loop is let work. -/
theorem runUntil_of_advance?_eq_none (h : s.advance? host target = none) (k : Nat) :
    s.runUntil host target k = s.setClock target := by
  cases k with
  | zero => rfl
  | succ k => rw [runUntil, h]

/-- On the way to a time behind the horizon the loop runs out of work, unless it counts its binds
anew. -/
theorem exists_runUntil_idle (hs : Reachable host s) (hquiet : host.RefusesQuietly)
    (htarget : s.phase = .stopped ∨ s.horizon + s.config.retryDelay.toNat ≤ target)
    (hrenews : ∀ k, ((s.runUntil host target k).command? .turn).any
      (s.runUntil host target k).renews = false) :
    ∃ n, ∀ k, n ≤ k →
      (s.runUntil host target k).timers = [] ∧ (s.runUntil host target k).inbox = [] := by
  -- each advance leaves less to do, and does not push the horizon back
  induction h : s.toil using WellFoundedLT.induction generalizing s with
  | ind toil ih =>
    subst h
    cases hadvance : s.advance? host target with
    | none =>
      have hidle := idle_of_advance?_eq_none hs htarget hadvance
      exact ⟨0, fun k _ => by rw [runUntil_of_advance?_eq_none hadvance]; exact hidle⟩
    | some t =>
      have hrun : ∀ k, s.runUntil host target (k + 1) = t.runUntil host target k := fun k => by
        rw [runUntil, hadvance]
      obtain ⟨hless, hhorizon⟩ := advance?_spends hs hquiet (hrenews 0) hadvance
      obtain ⟨a, rfl⟩ := exists_step_of_advance? hadvance
      have hconfig : (s.step host a).config = s.config := config_step hs.poised.toTidy a
      have htarget' : (s.step host a).phase = .stopped ∨
          (s.step host a).horizon + (s.step host a).config.retryDelay.toNat ≤ target := by
        rcases htarget with hstopped | htarget
        · exact .inl ((offstage_of_stopped hstopped host a).2.phase.trans hstopped)
        · rw [hconfig]
          exact hhorizon.imp_right fun hle => Nat.le_trans (Nat.add_le_add_right hle _) htarget
      obtain ⟨n, hn⟩ := ih _ hless (hs.step a) htarget' (fun k => hrun k ▸ hrenews (k + 1)) rfl
      refine ⟨n + 1, fun k hk => ?_⟩
      obtain ⟨k, rfl⟩ := Nat.exists_eq_add_of_le' hk
      rw [← Nat.add_assoc, hrun]
      exact hn _ (Nat.le_add_left _ _)

end System

/-- The horizon is no further than one delay for each bind that may still be tried, and two more. -/
theorem Reachable.horizon_le (hs : Reachable host s) :
    s.horizon ≤ s.clock + s.config.retryDelay.toNat * (s.headroom + 2) := by
  have hattempt := Bool.toNat_le s.loop.attempt.isSome
  have hwaiting : s.waiting ≤ 1 := Nat.le_trans List.countP_le_length hs.armed.length_timers_le
  refine Nat.add_le_add_left (Nat.mul_le_mul_left _ ?_) _
  rw [System.credit]
  omega

/-- A retry chain ends, whatever the delay. As long as the loop does not count its binds anew, no
more binds are tried than are still allowed, and at most two more retries take effect, whatever
callers and collaborators do in the meantime. And if it is left to itself, it runs out of work: each
time that is far enough away, and without a delay the present one, is reached with no timer armed
and no command queued, whatever the binder answers. A notification center that asks for a connection
whenever it refuses a subscription could keep the loop busy; so it is to refuse quietly. -/
theorem retry_chain_ends (hs : Reachable host s) :
    (∀ as, Unrenewed host s as →
      (s.run host as).journal.binds ≤ s.journal.binds +
        (s.config.maxRetries.toNat - s.loop.retryCount.toNat) ∧
      s.retried host as ≤ s.config.maxRetries.toNat - s.loop.retryCount.toNat + 2) ∧
    (host.RefusesQuietly → ∀ target,
      s.clock + s.config.retryDelay.toNat *
        (s.config.maxRetries.toNat - s.loop.retryCount.toNat + 3) ≤ target →
      (∀ k, ((s.runUntil host target k).command? .turn).any
        (s.runUntil host target k).renews = false) →
      ∃ n, ∀ k, n ≤ k →
        (s.runUntil host target k).timers = [] ∧ (s.runUntil host target k).inbox = []) := by
  refine ⟨fun as has => ⟨hs.binds_le has, ?_⟩, fun hquiet target htarget hrenews => ?_⟩
  · have hretried := System.retried_le hs has
    have hprospects := s.prospects_le
    change s.retried host as ≤ s.headroom + 2
    omega
  · refine System.exists_runUntil_idle hs hquiet (.inr (Nat.le_trans ?_ htarget)) hrenews
    have hhorizon := hs.horizon_le
    change s.horizon + s.config.retryDelay.toNat ≤
      s.clock + s.config.retryDelay.toNat * (s.headroom + 2 + 1)
    rw [Nat.mul_succ]
    omega

/-- A supervisor without a delay whose binder turns everything down, when the first retry is due. -/
def Scenario.hopeless : System World :=
  (System.spawn ⟨⟨0⟩, ⟨"music"⟩, ⟨"player"⟩⟩ { maxRetries := 2, retryDelay := 0 }
      { mode := .reject "busy" }).run Scenario.host
    [.turn, .act (.deed (.ask (.setEnabled true))), .turn]

theorem Scenario.reachable_hopeless : Reachable Scenario.host hopeless :=
  (Reachable.spawn _ _ _ rfl).run _

theorem Scenario.refusesQuietly : Scenario.host.RefusesQuietly := by
  intro w q e h
  simp only [host, subscribe] at h ⊢
  split <;> rename_i hfailing
  · exact List.not_mem_nil
  · rw [if_neg hfailing] at h
    cases h

/-- Its chain: the first retry fails as well, and with the second one it gives up. -/
def Scenario.chain : List (Step World) := [.fire ⟨1, 0⟩, .turn, .fire ⟨2, 0⟩, .turn]

theorem hopeless_chain_ends :
    (Scenario.hopeless.run Scenario.host Scenario.chain).journal.binds ≤ 2 ∧
    Scenario.hopeless.retried Scenario.host Scenario.chain ≤ 3 ∧
    ∃ n, ∀ k, n ≤ k → (Scenario.hopeless.settle Scenario.host k).timers = [] ∧
      (Scenario.hopeless.settle Scenario.host k).inbox = [] := by
  obtain ⟨hbounds, hends⟩ := retry_chain_ends Scenario.reachable_hopeless
  have hchain : Unrenewed Scenario.host Scenario.hopeless Scenario.chain :=
    ⟨rfl, rfl, rfl, rfl, trivial⟩
  obtain ⟨hbinds, hretried⟩ := hbounds Scenario.chain hchain
  refine ⟨hbinds, hretried, hends Scenario.refusesQuietly 0 (by decide) fun k => ?_⟩
  match k with
  | 0 | 1 | 2 | 3 => rfl
  | k + 4 =>
    have hidle : Scenario.hopeless.runUntil Scenario.host 0 (k + 4) =
        (Scenario.hopeless.run Scenario.host Scenario.chain).setClock 0 :=
      System.runUntil_of_advance?_eq_none
        (s := Scenario.hopeless.run Scenario.host Scenario.chain) rfl k
    rw [hidle]
    rfl

end Supervision
