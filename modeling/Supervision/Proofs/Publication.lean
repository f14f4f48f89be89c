import Supervision.Proofs.Moves
import Supervision.Scenario.World

/-!
# Session publication

The slot shows a session to callers; the loop has its own idea of the connection, and events
wait beside both. `Coherent` says how the three fit together, and holds throughout a run: a
session in the slot is the session of a connected loop, of its attempt, and no event waits
behind it (`published_session_is_current`).

A caller whose dispatch is refused takes the session out of the slot, and only tells the loop
to look after it. `Reported` says that the loop is going to: while it is connected without a
session in the slot, the report is still in the inbox, and the attempt is over once the
commands up to it were processed (`refused_session_is_reported`).
-/

namespace Supervision

variable {W : Type} {host : Host W} {s t : System W}

/-! ## Slot, loop and pending events -/

/-- How the slot, the loop and the pending events fit together. -/
structure Coherent (s : System W) : Prop where
  idle : s.loop.state.isIdle → s.loop.attempt = none ∧ s.loop.session = none
  connecting : s.loop.state = .connecting → s.loop.session = none
  connected : s.loop.state = .connected →
    ∃ x, s.loop.session = some x ∧ s.loop.attempt = some x.token
  slot : ∀ x, s.slot = some x → s.loop.state = .connected ∧ s.loop.session = some x
  empty : ∀ x, s.slot = some x → s.pending.kinds = .empty ∧ s.pending.target = none

namespace Coherent

theorem of_still (hs : Coherent s) (h : Still s t) : Coherent t where
  idle ht := by
    rw [h.attempt, h.session]
    refine hs.idle ?_
    rcases h.state with hst | ⟨hi, -⟩
    · rwa [← hst]
    · exact hi
  connecting ht := by
    rw [h.session]
    exact hs.connecting (h.state_eq (by simp [ht, ConnectionState.isIdle]) ▸ ht)
  connected ht := by
    rw [h.session, h.attempt]
    exact hs.connected (h.state_eq (by simp [ht, ConnectionState.isIdle]) ▸ ht)
  slot x hx := by
    obtain ⟨hc, hx⟩ := hs.slot x (h.slot ▸ hx)
    rcases h.state with hst | ⟨hi, -⟩
    · rw [hst, h.session]
      exact ⟨hc, hx⟩
    · rw [hc] at hi
      cases hi
  empty x hx := by
    rw [h.pending]
    exact hs.empty x (h.slot ▸ hx)

/-- A caller only empties the slot, and what it leaves waiting waits behind no session. -/
theorem of_told {e : LifecycleEvent} (hs : Coherent s) (h : Told s e t) : Coherent t := by
  cases h with
  | untold => exact hs
  | deferred hslot ht =>
    refine of_still ?_ ht.still
    exact { hs with empty := fun x hx => by cases hslot ▸ hx }
  | accepted hslot ha ht =>
    refine of_still ?_ ht.still
    exact { hs with empty := fun x hx => by simpa using hs.empty x hx }
  | refused hslot ha ht hcheck =>
    refine of_still ?_ ht.still
    exact { hs with
      slot := fun x hx => by cases hx
      empty := fun x hx => by cases hx }

theorem of_meanwhile (hs : Coherent s) (h : Meanwhile s t) : Coherent t :=
  h.induct hs (fun _ _ h hs => hs.of_still h) fun _ _ _ h hs => hs.of_told h

/-- A session that is lost leaves the slot. -/
theorem of_lost (h : Lost s t) : Coherent t where
  idle _ := ⟨h.attempt, h.session⟩
  connecting ht := by cases ht ▸ h.state
  connected ht := by cases ht ▸ h.state
  slot x hx := by cases h.slot ▸ hx
  empty x hx := by cases h.slot ▸ hx

/-- A session comes into the slot with its replay, which has left nothing waiting. -/
theorem of_move (hs : Coherent s) (h : Move host s t) : Coherent t := by
  cases h with
  | still h => exact hs.of_still h
  | told h => exact hs.of_told h
  | lost h => exact of_lost h
  | @sought u token hi hu =>
    have h := hs.of_meanwhile hu
    have hui := hu.isIdle hi
    have hslot : ∀ x, u.slot ≠ some x := fun x hx => by cases (h.slot x hx).1 ▸ hui
    exact {
      idle := nofun
      connecting := fun _ => (h.idle hui).2
      connected := nofun
      slot := fun x hx => absurd hx (hslot x)
      empty := fun x hx => absurd hx (hslot x) }
  | @made u x o hi ha hr ho =>
    have hl : u.loop = { s.loop with session := some x, state := .connected } :=
      (System.aside_of_replay hr).loop
    have hp := System.pending_of_replay hr ho
    exact {
      idle := by simp [hl, ConnectionState.isIdle]
      connecting := by simp [hl]
      connected := fun _ => ⟨x, by simp [hl], by simp [hl, ha]⟩
      slot := by simp [hl]
      empty := fun _ _ => hp }
  | refused _ _ _ _ hl => exact of_lost hl

end Coherent

/-- In each reachable state, slot, loop and pending events fit together. -/
theorem Reachable.coherent (hs : Reachable host s) : Coherent s := by
  refine hs.induct (fun x c w => ?_) (fun _ _ _ h => { h with }) fun _ _ h hs => hs.of_move h
  exact { idle := fun _ => ⟨rfl, rfl⟩, connecting := nofun, connected := nofun, slot := nofun,
          empty := nofun }

/-! ## The published status -/

namespace System

/-- What is published is the status of the loop. -/
theorem status_publish (s : System W) : s.publish.status = s.publish.loop.status := by
  unfold publish
  split
  · assumption
  · rfl

/-- So it is after each step. -/
theorem status_step (h : s.status = s.loop.status) (a : Step W) :
    (s.step host a).status = (s.step host a).loop.status := by
  have aside : ∀ {t : System W}, Aside s t → t.status = t.loop.status := fun ht => by
    rw [ht.status, ht.loop, h]
  cases a with
  | act a =>
    cases a with
    | deed d => exact aside (unheard_perform host d).toAside
    | tell e => exact aside (told_tell host s e).aside
  | turn =>
    simp only [step, turn]
    split
    · exact h
    · exact h
    · split
      · simp only [process]
        split
        · rename_i hc
          rw [hc]
          exact status_publish _
        · exact status_publish _
      · split
        · exact h
        · exact status_publish _
  | fire x =>
    simp only [step]
    split
    · have h := unheard_notify (s := { s with timers := s.timers.erase x })
        (.retryElapsed x.generation)
      exact aside { h.toAside with }
    · exact h
  | _ => exact h

end System

/-- Between steps the published status is that of the loop. -/
theorem Reachable.status_eq (hs : Reachable host s) : s.status = s.loop.status := by
  induction hs with
  | spawn => rfl
  | step _ a ih => exact System.status_step ih a

/-- A session in the slot is that of the connected loop and of its attempt, and no event
waits behind it; so a click only waits while there is none, and while there is one the
published status says so. -/
theorem published_session_is_current (hs : Reachable host s) :
    (∀ x, s.slot = some x →
      s.loop.state = .connected ∧ s.loop.attempt = some x.token ∧
      (∃ y, s.loop.session = some y ∧ y.token = x.token) ∧
      s.pending.isEmpty = true ∧ s.pending.target = none) ∧
    (s.pending.contains .click = true → s.slot.isSome = false) ∧
    (s.slot.isSome = true → s.status.state = .connected) := by
  have h := hs.coherent
  refine ⟨fun x hx => ?_, fun hc => ?_, fun hslot => ?_⟩
  · obtain ⟨hc, hsession⟩ := h.slot x hx
    obtain ⟨hkinds, htarget⟩ := h.empty x hx
    obtain ⟨y, hy, ha⟩ := h.connected hc
    obtain rfl : x = y := Option.some.inj (hsession.symm.trans hy)
    refine ⟨hc, ha, ⟨x, hy, rfl⟩, ?_, htarget⟩
    rw [Pending.isEmpty, hkinds]
    rfl
  · cases hslot : s.slot with
    | none => rfl
    | some x =>
      rw [Pending.contains, (h.empty x hslot).1] at hc
      cases hc
  · obtain ⟨x, hx⟩ := Option.isSome_iff_exists.1 hslot
    rw [hs.status_eq]
    exact (h.slot x hx).1

/-- A supervisor that was asked for a connection, and has one. -/
def Scenario.connected : System World :=
  (System.spawn ⟨⟨0⟩, ⟨"music"⟩, ⟨"player"⟩⟩ {} { transports := [{}] }).run Scenario.host
    [.turn, .act (.deed (.ask (.setEnabled true))), .turn,
      .act (.deed (.report (.connected ⟨1⟩ ⟨0⟩))), .turn]

theorem Scenario.reachable_connected : Reachable Scenario.host connected :=
  (Reachable.spawn _ _ _ rfl).run _

theorem connected_session_is_current :
    Scenario.connected.slot = some ⟨⟨1⟩, ⟨0⟩⟩ ∧
    Scenario.connected.loop.attempt = some ⟨1⟩ ∧
    Scenario.connected.pending.isEmpty = true ∧
    Scenario.connected.status.state = .connected := by
  obtain ⟨hsession, -, hstatus⟩ := published_session_is_current Scenario.reachable_connected
  obtain ⟨-, ha, -, hempty, -⟩ := hsession ⟨⟨1⟩, ⟨0⟩⟩ rfl
  exact ⟨rfl, ha, hempty, hstatus rfl⟩

/-! ## Refused dispatches -/

/-- While the loop is connected without a session in the slot, it has among `cs`, or in its
inbox, the command to look after the session it had. -/
def Reported (cs : List Command) (s : System W) : Prop :=
  s.phase ≠ .stopped → s.loop.state = .connected → s.slot = none →
    ∃ token, s.loop.attempt = some token ∧ .deathCheck (some token) ∈ cs ++ s.inbox

/-- The report of a refused dispatch stays in the inbox behind these commands. -/
theorem Reported.of_move {cs : List Command} (hr : Reported cs s) (hs : Coherent s)
    (h : Move host s t) : Reported cs t := by
  intro hopen hc hslot
  have hsopen : s.phase ≠ .stopped := h.phase_eq ▸ hopen
  have keep : ∀ {token : BindToken}, .deathCheck (some token) ∈ cs ++ s.inbox →
      .deathCheck (some token) ∈ cs ++ t.inbox := fun hmem => by
    rw [List.mem_append] at hmem ⊢
    exact hmem.imp_right (h.inbox_prefix.subset ·)
  cases h with
  | still h =>
    have hsc := h.state_eq (by simp [hc, ConnectionState.isIdle]) ▸ hc
    obtain ⟨token, ha, hmem⟩ := hr hsopen hsc (h.slot ▸ hslot)
    exact ⟨token, h.attempt.trans ha, keep hmem⟩
  | told h =>
    rw [h.aside.loop] at hc ⊢
    cases hx : s.slot with
    | none =>
      obtain ⟨token, ha, hmem⟩ := hr hsopen hc hx
      exact ⟨token, ha, keep hmem⟩
    | some x =>
      obtain ⟨y, hy, ha⟩ := hs.connected hc
      obtain rfl : x = y := Option.some.inj ((hs.slot x hx).2.symm.trans hy)
      cases h with
      | untold => cases hx ▸ hslot
      | deferred hnone => cases hx ▸ hnone
      | accepted _ _ ht => cases hx ▸ ht.slot ▸ hslot
      | refused hx' _ _ hcheck =>
        obtain rfl : x = _ := Option.some.inj (hx.symm.trans hx')
        exact ⟨x.token, ha, List.mem_append_right _ (hcheck hsopen)⟩
  | lost h => cases hc ▸ h.state
  | sought => cases hc
  | made => cases hslot
  | refused _ _ _ _ hl => cases hc ▸ hl.state

theorem Reported.of_moves {cs : List Command} (hr : Reported cs s) (hs : Coherent s)
    (h : Moves host s t) : Reported cs t := by
  have hboth : Coherent t ∧ Reported cs t :=
    h.induct (motive := fun t => Coherent t ∧ Reported cs t) ⟨hs, hr⟩
      fun _ _ h hs => ⟨hs.1.of_move h, hs.2.of_move hs.1 h⟩
  exact hboth.2

/-- Once a death report of a token was processed, the loop is not connected by that token. -/
theorem System.not_connected_of_deathCheck (host : Host W) (s : System W) (token : BindToken) :
    ¬((s.process host (.deathCheck (some token))).loop.state = .connected ∧
      (s.process host (.deathCheck (some token))).loop.attempt = some token) := by
  have hpub : ∀ u : System W, u.publish.loop = u.loop := fun u => by
    unfold publish
    split <;> rfl
  simp only [process, obey, reduceCtorEq, if_false, hpub]
  generalize s.note (.received (.deathCheck (some token))) = u
  by_cases h : u.loop.attempt = some token ∧
      (u.loop.state = .connecting ∨ u.loop.state = .connected)
  · rintro ⟨hc, -⟩
    have hl := lost_sessionDied host .dispatchFailed h.1 fun hi => by
      rcases h.2 with h | h <;> cases h ▸ hi
    cases hc ▸ hl.state
  · rw [sessionDied, if_neg h]
    exact fun hc => h ⟨hc.2, .inr hc.1⟩

/-- In each reachable state, a connection without a session in the slot is reported. -/
theorem Reachable.reported (hs : Reachable host s) : Reported [] s := by
  induction hs with
  | spawn => exact nofun
  | @step s hs a ih =>
    have h := System.stepped_step host s a
    generalize s.step host a = t at h ⊢
    cases h with
    | moved h => exact ih.of_move hs.coherent h
    | started hp => exact fun _ => ih (by simp [hp])
    | stopped => exact fun h => absurd rfl h
    | @processed c rest hp hi hc =>
      have hsc : Coherent { s with inbox := rest } := { hs.coherent with }
      have hr : Reported [c] { s with inbox := rest } := fun hopen hst hslot => by
        obtain ⟨token, ha, hmem⟩ := ih hopen hst hslot
        exact ⟨token, ha, by simpa [hi] using hmem⟩
      intro hopen hst hslot
      obtain ⟨token, ha, hmem⟩ :=
        hr.of_moves hsc (System.process_moves host _ hc) hopen hst hslot
      rw [List.mem_append, List.mem_singleton] at hmem
      rcases hmem with rfl | hmem
      · exact absurd ⟨hst, ha⟩ (System.not_connected_of_deathCheck host _ token)
      · exact ⟨token, ha, hmem⟩

/-! ## Attempts are left for good -/

/-- The token was given out, and is not that of the attempt. -/
def Abandoned (token : BindToken) (s : System W) : Prop :=
  s.loop.attempt ≠ some token ∧ token.number < s.nextToken

/-- The loop is connected by the token. -/
def Held (token : BindToken) (s : System W) : Prop :=
  s.loop.state = .connected ∧ s.loop.attempt = some token ∧ token.number < s.nextToken

variable {token : BindToken}

/-- An attempt that is over is not taken up again, since tokens are new. -/
theorem Abandoned.of_move (hs : Abandoned token s) (h : Move host s t) : Abandoned token t := by
  refine ⟨?_, Nat.lt_of_lt_of_le hs.2 h.nextToken_le⟩
  cases h with
  | still h =>
    rw [h.attempt]
    exact hs.1
  | told h =>
    rw [h.aside.loop]
    exact hs.1
  | lost h => simp [h.attempt]
  | sought _ _ hge =>
    rintro ⟨⟩
    exact absurd hs.2 (Nat.not_lt.2 hge)
  | made _ _ hr =>
    rw [(System.aside_of_replay hr).loop]
    exact hs.1
  | refused _ _ _ _ hl => simp [hl.attempt]

/-- A token that connects the loop does so until it is abandoned. -/
theorem Held.of_move (hs : Held token s) (h : Move host s t) :
    Held token t ∨ Abandoned token t := by
  obtain ⟨hc, ha, hlt⟩ := hs
  have hlt' : token.number < t.nextToken := Nat.lt_of_lt_of_le hlt h.nextToken_le
  cases h with
  | still h =>
    rcases h.state with hst | ⟨hi, -⟩
    · exact .inl ⟨hst.trans hc, h.attempt.trans ha, hlt'⟩
    · cases hc ▸ hi
  | told h =>
    refine .inl ⟨?_, ?_, hlt'⟩ <;> rw [h.aside.loop] <;> assumption
  | lost h => exact .inr ⟨by simp [h.attempt], hlt'⟩
  | sought hi => cases hc ▸ hi
  | made hs => cases hc ▸ hs
  | refused hs => cases hc ▸ hs

/-- While a command is processed, the attempt is held on to or left for good. -/
theorem Held.of_moves (hs : Held token s) (h : Moves host s t) :
    Held token t ∨ Abandoned token t := by
  refine h.induct (motive := fun t => Held token t ∨ Abandoned token t) (.inl hs) ?_
  rintro s t h (hs | hs)
  · exact hs.of_move h
  · exact .inr (hs.of_move h)

/-- An attempt that is over stays over. -/
theorem Abandoned.of_run (hs : Abandoned token s) (as : List (Step W)) :
    Abandoned token (s.run host as) := by
  induction as generalizing s with
  | nil => exact hs
  | cons a as ih =>
    exact ih (step_induct (motive := Abandoned token) (fun _ _ _ h => h)
      (fun _ _ h hs => hs.of_move h) hs a)

/-- While a death report of the token that connects the loop is among the first `n` commands,
a step keeps it there, and a turn brings it one nearer, unless the token is abandoned. -/
theorem Held.of_step {n : Nat} (hs : Held token s) (hrun : s.phase = .running)
    (hmem : .deathCheck (some token) ∈ s.inbox.take n) (a : Step W) :
    Abandoned token (s.step host a) ∨
      Held token (s.step host a) ∧ (s.step host a).phase = .running ∧
        .deathCheck (some token) ∈ (s.step host a).inbox.take (if a.isTurn then n - 1 else n) := by
  -- commands are only added behind the report
  have keep : ∀ {l l' : List Command} {m : Nat}, l <+: l' →
      .deathCheck (some token) ∈ l.take m → .deathCheck (some token) ∈ l'.take m := by
    rintro l _ m ⟨r, rfl⟩ h
    rw [List.take_append]
    exact List.mem_append_left _ h
  have h := System.stepped_step host s a
  generalize s.step host a = t at h ⊢
  cases h with
  | moved h ha =>
    have hturn : a.isTurn = false := by
      refine Bool.eq_false_iff.2 fun hturn => ?_
      simp [ha hturn hrun] at hmem
    rcases hs.of_move h with hs | hs
    · refine .inr ⟨hs, h.phase_eq.trans hrun, ?_⟩
      simpa [hturn] using keep h.inbox_prefix hmem
    · exact .inl hs
  | started hp => cases hrun ▸ hp
  | stopped _ h =>
    exact .inl ⟨by simp [System.stop, h.attempt], Nat.lt_of_lt_of_le hs.2.2 h.nextToken⟩
  | @processed c rest hp hi hc =>
    have hm := System.process_moves host { s with inbox := rest } hc
    rcases Held.of_moves (s := { s with inbox := rest }) hs hm with hs' | hs'
    · refine .inr ⟨hs', hm.phase_eq.trans hrun, keep hm.inbox_prefix ?_⟩
      cases n with
      | zero => cases hmem
      | succ n =>
        rw [hi, List.take_succ_cons, List.mem_cons] at hmem
        rcases hmem with rfl | hmem
        · exact absurd ⟨hs'.1, hs'.2.1⟩ (System.not_connected_of_deathCheck host _ token)
        · split
          · exact hmem
          · exact List.take_subset_take_left _ (Nat.le_succ n) hmem
    · exact .inl hs'

/-- A token that connects the loop, and whose death report is among the first `n` commands, is
abandoned after `n` turns, whatever happens between them. -/
theorem Held.abandoned_run (hs : Held token s) (hrun : s.phase = .running) (as : List (Step W))
    (hmem : .deathCheck (some token) ∈ s.inbox.take (as.countP Step.isTurn)) :
    Abandoned token (s.run host as) := by
  induction as generalizing s with
  | nil => cases hmem
  | cons a as ih =>
    have hstep : Abandoned token (s.step host a) ∨ _ := hs.of_step hrun hmem a
    rcases hstep with h | ⟨h, hrun, hmem⟩
    · exact h.of_run as
    · refine ih h hrun ?_
      rw [List.countP_cons] at hmem
      cases ha : a.isTurn <;> simpa [ha] using hmem

/-- The token of the attempt was given out. -/
theorem Reachable.attempt_lt_nextToken (hs : Reachable host s) :
    ∀ token, s.loop.attempt = some token → token.number < s.nextToken := by
  refine hs.induct (motive := fun s => ∀ token, s.loop.attempt = some token →
    token.number < s.nextToken) (fun _ _ _ => nofun) (fun _ _ _ h => h) fun s t h ih token ha => ?_
  have keep {token : BindToken} (ha : s.loop.attempt = some token) : token.number < t.nextToken :=
    Nat.lt_of_lt_of_le (ih token ha) h.nextToken_le
  cases h with
  | still h => exact keep (h.attempt ▸ ha)
  | told h => exact keep (h.aside.loop ▸ ha)
  | lost h => cases h.attempt ▸ ha
  | sought _ _ _ hlt =>
    cases ha
    exact hlt
  | made _ ha' hr =>
    have hl := (System.aside_of_replay hr).loop
    exact keep (by simpa [hl] using ha)
  | refused _ _ _ _ hl => cases hl.attempt ▸ ha

/-- A session whose dispatch a caller was refused is looked after: while the loop runs and is
connected without a session in the slot, the death report of the attempt waits in the inbox,
and once the loop has taken as many turns as there are commands now, the attempt is over. -/
theorem refused_session_is_reported (hs : Reachable host s) (hrun : s.phase = .running)
    (hc : s.loop.state = .connected) (hslot : s.slot = none) :
    ∃ token, s.loop.attempt = some token ∧ .deathCheck (some token) ∈ s.inbox ∧
      ∀ as : List (Step W), s.inbox.length ≤ as.countP Step.isTurn →
        (s.run host as).loop.attempt ≠ some token := by
  obtain ⟨token, ha, hmem⟩ := hs.reported (by simp [hrun]) hc hslot
  rw [List.nil_append] at hmem
  refine ⟨token, ha, hmem, fun as hlen => ?_⟩
  have h : Held token s := ⟨hc, ha, hs.attempt_lt_nextToken token ha⟩
  refine (h.abandoned_run hrun as ?_).1
  rwa [List.take_of_length_le hlen]

/-- The connected supervisor, after its transport went away and refused a caller's event. -/
def Scenario.refused : System World := connected.run Scenario.host [.drift {}, .act (.tell .added)]

theorem refused_added_is_reported : ∃ token,
    Scenario.refused.loop.attempt = some token ∧
    .deathCheck (some token) ∈ Scenario.refused.inbox ∧
    (Scenario.refused.step Scenario.host .turn).loop.attempt ≠ some token := by
  obtain ⟨token, ha, hmem, hrun⟩ :=
    refused_session_is_reported (Scenario.reachable_connected.run _) (s := Scenario.refused)
      rfl rfl rfl
  exact ⟨token, ha, hmem, hrun [.turn] (by decide)⟩

end Supervision
