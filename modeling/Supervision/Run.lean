import Supervision.Assembly
import Supervision.System.Clock

/-!
# Runs

A run is any sequence of things that happen to a supervisor: callers and collaborators do
something, the loop takes a turn, a due timer fires, time passes, callers who waited go, or
the world of the host changes on its own. Nothing is assumed about their order; timers may
be late, and turns may be taken or not.

`Reachable host s` says that `s` can come about in a run from the start of a supervisor
with a valid configuration. What holds of all reachable states holds before and after each
turn and each thing that a caller does. The states that `System.runUntil` meets are among
them, since each of its steps is a step of a run.
-/

namespace Supervision

/-- One thing that happens in a run. -/
inductive Step (W : Type)
  /-- A caller or a collaborator does something. -/
  | act (act : Act)
  /-- The loop takes a turn. -/
  | turn
  /-- A timer fires, if it is armed and due. -/
  | fire (timer : Timer)
  /-- Some milliseconds pass. -/
  | wait (span : Nat)
  /-- Some of the callers who wait for an answer go. -/
  | leave (count : Nat)
  /-- The world of the host becomes another one. -/
  | drift (world : W)

namespace System

variable {W : Type}

/-- The supervisor after one step of a run. -/
def step (host : Host W) (s : System W) : Step W → System W
  | .act a => s.act host a
  | .turn => s.turn host
  | .fire t => if t ∈ s.timers ∧ t.isDue s.clock then s.fire t else s
  | .wait span => s.setClock (s.clock + span)
  | .leave count => s.leave count
  | .drift w => { s with world := w }

/-- The supervisor after several steps of a run. -/
def run (host : Host W) (s : System W) (steps : List (Step W)) : System W :=
  steps.foldl (step host) s

@[simp] theorem run_nil (host : Host W) (s : System W) : s.run host [] = s := rfl

@[simp] theorem run_cons (host : Host W) (s : System W) (a : Step W) (as : List (Step W)) :
    s.run host (a :: as) = (s.step host a).run host as := rfl

theorem run_append (host : Host W) (s : System W) (as bs : List (Step W)) :
    s.run host (as ++ bs) = (s.run host as).run host bs := by
  simp [run]

/-! ## The loop at work -/

theorem setClock_eq_step (host : Host W) (s : System W) (now : Nat) :
    s.setClock now = s.step host (.wait (now - s.clock)) := by
  simp [step, setClock]
  omega

/-- Each step of the loop and its timers on the way to a time is a step of a run. -/
theorem exists_step_of_advance? {host : Host W} {s t : System W} {target : Nat}
    (h : s.advance? host target = some t) : ∃ a, t = s.step host a := by
  unfold advance? at h
  split at h
  · exact ⟨.turn, by simpa [step] using h.symm⟩
  · split at h
    · rename_i x hx
      have hmem := List.mem_of_find?_eq_some hx
      have hdue := List.find?_some hx
      exact ⟨.fire x, by simpa [step, hmem, hdue] using h.symm⟩
    · obtain ⟨d, -, rfl⟩ := Option.map_eq_some_iff.1 h
      exact ⟨_, setClock_eq_step host s d⟩

/-- What the loop does on the way to a time is a run. -/
theorem exists_run_eq_runUntil (host : Host W) (target limit : Nat) (s : System W) :
    ∃ as, s.runUntil host target limit = s.run host as := by
  induction limit generalizing s with
  | zero => exact ⟨[.wait (target - s.clock)], setClock_eq_step host s target⟩
  | succ limit ih =>
    unfold runUntil
    split
    · rename_i t ht
      obtain ⟨a, rfl⟩ := exists_step_of_advance? ht
      obtain ⟨as, has⟩ := ih (s.step host a)
      exact ⟨a :: as, has⟩
    · exact ⟨[.wait (target - s.clock)], setClock_eq_step host s target⟩

end System

/-- The states that come about in runs of a supervisor with a valid configuration. -/
inductive Reachable {W : Type} (host : Host W) : System W → Prop
  | spawn (x : Extension) (c : Config) (w : W) (hc : c.validate = .ok ()) :
    Reachable host (System.spawn x c w)
  | step {s : System W} (hs : Reachable host s) (a : Step W) : Reachable host (s.step host a)

/-- A run from a reachable state only meets reachable states. -/
theorem Reachable.run {W : Type} {host : Host W} {s : System W} (hs : Reachable host s)
    (as : List (Step W)) : Reachable host (s.run host as) := by
  induction as generalizing s with
  | nil => exact hs
  | cons a as ih => exact ih (hs.step a)

/-- The loop at work only meets reachable states. -/
theorem Reachable.runUntil {W : Type} {host : Host W} {s : System W} (hs : Reachable host s)
    (target limit : Nat) : Reachable host (s.runUntil host target limit) := by
  obtain ⟨as, h⟩ := System.exists_run_eq_runUntil host target limit s
  exact h ▸ hs.run as

end Supervision
