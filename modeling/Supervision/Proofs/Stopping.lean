import Supervision.Proofs.Stirring

/-!
# The loop at rest

When the loop stops it lets go of all that it has, wants nothing any more, and keeps its counters:
what is left of it is `Loop.atRest`. Whatever made it stop, this is the loop that the stop leaves
(`System.loop_of_stopping`), and it never changes again (`System.offstage_run_of_stopped`).
-/

namespace Supervision

variable {W : Type} {host : Host W} {s : System W} {a : Step W}

/-- What is left of a loop that stops. -/
def Loop.atRest (l : Loop) : Loop :=
  { l with
    state := .unbound, desired := false, flushing := false, attempt := none, binding := none,
    session := none, retry := none, watching := none }

@[simp] theorem Loop.atRest_atRest (l : Loop) : l.atRest.atRest = l.atRest := rfl

/-- The status of a loop at rest says nothing but what was counted. -/
theorem Loop.status_atRest (l : Loop) :
    l.atRest.status = { retryCount := l.retryCount, droppedEvents := l.dropped } := rfl

namespace System

theorem loop_shutDown (host : Host W) (s : System W) : (s.shutDown host).loop = s.loop.atRest := by
  have h : (s.shutDown host).loop = (s.teardown host).publish.loop := rfl
  rw [h, loop_publish, loop_teardown]
  rfl

theorem loop_close (host : Host W) (s : System W) : (s.close host).loop = s.loop.atRest := by
  have h : (s.close host).loop = ((s.note .allHandlesDropped).teardown host).publish.loop := rfl
  rw [h, loop_publish, loop_teardown]
  rfl

/-- A step that stops the loop leaves it at rest. -/
theorem loop_of_stopping (ho : s.phase ≠ .stopped) (ha : (s.step host a).phase = .stopped) :
    (s.step host a).loop = s.loop.atRest := by
  have h := turned_step host s a
  generalize s.command? a = c?, s.step host a = t at h ha ⊢
  cases h with
  | offstage h => exact absurd (h.phase.symm.trans ha) ho
  | started => cases ha
  | @processed c rest hs _ hc =>
    have h := (stirred_process host { s with inbox := rest } hc).steady.phase
    exact absurd (h.symm.trans ha) ho
  | shutDown => exact loop_shutDown host _
  | closed => exact loop_close host s

/-- The loop only stops because it is told to, or because nobody holds on to it and no command is
left. -/
theorem cause_of_stopping (ho : s.phase ≠ .stopped) (ha : (s.step host a).phase = .stopped) :
    s.command? a = some .shutdown ∨ a.isTurn = true ∧ s.inbox = [] ∧ s.isHeld = false := by
  have h := paced_step host s a
  generalize s.command? a = c?, s.step host a = t at h ha ⊢
  cases h with
  | idled _ h => exact absurd (h.steady.phase.symm.trans ha) ho
  | started => cases ha
  | processed _ _ _ _ h => exact absurd (h.steady.phase.symm.trans ha) ho
  | shutDown => exact .inl rfl
  | closed hturn _ hi hheld => exact .inr ⟨hturn, hi, hheld⟩

/-- After the stop nothing is processed, and a step only stirs what callers share. -/
theorem offstage_of_stopped (hs : s.phase = .stopped) (host : Host W) (a : Step W) :
    s.command? a = none ∧ Offstage s (s.step host a) := by
  have h := turned_step host s a
  generalize s.command? a = c?, s.step host a = t at h ⊢
  cases h with
  | offstage h => exact ⟨rfl, h⟩
  | started hr => cases hs.symm.trans hr
  | processed hr => cases hs.symm.trans hr
  | shutDown hr => cases hs.symm.trans hr
  | closed hr => cases hs.symm.trans hr

/-- After the stop, however long, nothing is processed. -/
theorem offstage_run_of_stopped (hs : s.phase = .stopped) (host : Host W) (as : List (Step W)) :
    s.commands host as = [] ∧ Offstage s (s.run host as) := by
  induction as generalizing s with
  | nil => exact ⟨rfl, .refl s⟩
  | cons a as ih =>
    obtain ⟨hc, hstep⟩ := offstage_of_stopped hs host a
    obtain ⟨hcommands, hrun⟩ := ih (hstep.phase.trans hs)
    rw [commands, hc, hcommands]
    exact ⟨rfl, hstep.trans hrun⟩

end System

/-- Once the loop has stopped it is at rest. -/
theorem Reachable.atRest (hs : Reachable host s) (hstopped : s.phase = .stopped) :
    s.loop.atRest = s.loop := by
  induction hs with
  | spawn => cases hstopped
  | @step s _ a ih =>
    by_cases ho : s.phase = .stopped
    · rw [(System.offstage_of_stopped ho host a).2.loop]
      exact ih ho
    · rw [System.loop_of_stopping ho hstopped, Loop.atRest_atRest]

end Supervision
