import Supervision.Proofs.Stirring

/-!
# Callers who wait

A caller who waits for the loop takes a ticket, and a command with that ticket waits in the inbox.
When the loop comes to it, the ticket is over and the caller is answered. Each ticket is given out
once, so it stands in the inbox at most once, and never again once it is over (`Ticketed`). So what
becomes of a caller can be told from where the command stands: the tickets that are over after a run
are those of before and those of the commands that the run processed (`System.mem_passed_run`).
-/

namespace Supervision

variable {W : Type} {host : Host W} {s t : System W}

/-- The tickets of the callers who wait for a command of the inbox, and of those whose wait is
over. -/
def System.tickets (s : System W) : List Nat := s.inbox.filterMap Command.ticket? ++ s.passed

/-- Each ticket was given out, and only once. -/
structure Ticketed (s : System W) : Prop where
  nodup : s.tickets.Nodup
  issued : ∀ k ∈ s.tickets, k < s.nextTicket

namespace Ticketed

theorem of_sublist (hs : Ticketed s) (hle : s.nextTicket ≤ t.nextTicket)
    (h : t.tickets.Sublist s.tickets) : Ticketed t where
  nodup := hs.nodup.sublist h
  issued k hk := Nat.lt_of_lt_of_le (hs.issued k (h.subset hk)) hle

/-- A command that nobody waits for is posted. -/
theorem of_enqueue (hs : Ticketed s) {c : Command} (hc : c.ticket? = none) :
    Ticketed (s.enqueue c) := by
  refine hs.of_sublist (Nat.le_refl _) ?_
  simp [System.tickets, System.enqueue, hc]

/-- The next ticket is given out. -/
theorem of_queued (hs : Ticketed s) :
    Ticketed { s.enqueue (.barrier s.nextTicket) with nextTicket := s.nextTicket + 1 } := by
  have hperm : (s.nextTicket :: s.tickets).Perm
      ({ s.enqueue (.barrier s.nextTicket) with nextTicket := s.nextTicket + 1 }).tickets := by
    simp only [System.tickets, System.enqueue, List.filterMap_append, List.append_assoc]
    exact List.perm_middle.symm
  refine ⟨hperm.nodup_iff.1 (List.nodup_cons.2 ⟨fun h => ?_, hs.nodup⟩), fun k hk => ?_⟩
  · exact Nat.lt_irrefl _ (hs.issued _ h)
  · rcases List.mem_cons.1 (hperm.mem_iff.2 hk) with rfl | hk
    · exact Nat.lt_succ_self _
    · exact Nat.lt_succ_of_lt (hs.issued k hk)

theorem of_stir (hs : Ticketed s) (h : Stir s t) : Ticketed t := by
  cases h with
  | touched h =>
    cases h with
    | @posted c hc => exact hs.of_enqueue (by cases c <;> first | rfl | cases hc)
    | queued => exact hs.of_queued
    | _ => exact { hs with }
  | rang => exact hs.of_enqueue rfl
  | _ => exact { hs with }

theorem of_stirred (hs : Ticketed s) (h : Stirred s t) : Ticketed t :=
  h.induct hs fun _ _ h hs => hs.of_stir h

/-- The ticket of the first command is over. -/
theorem of_taken (hs : Ticketed s) {c : Command} {rest : List Command} (hi : s.inbox = c :: rest) :
    Ticketed { s with inbox := rest, passed := c.ticket?.toList ++ s.passed } := by
  have hperm : s.tickets.Perm
      ({ s with inbox := rest, passed := c.ticket?.toList ++ s.passed } : System W).tickets := by
    simp only [System.tickets, hi]
    cases h : c.ticket? with
    | none => simp [h]
    | some k => simp [h, List.perm_middle.symm]
  exact ⟨hperm.nodup_iff.1 hs.nodup, fun k hk => hs.issued k (hperm.mem_iff.2 hk)⟩

theorem of_stop (hs : Ticketed s) : Ticketed s.stop :=
  hs.of_sublist (Nat.le_refl _) (List.sublist_append_right ..)

end Ticketed

theorem Reachable.ticketed (hs : Reachable host s) : Ticketed s := by
  induction hs with
  | spawn => exact ⟨.nil, nofun⟩
  | @step s _ a ih =>
    have h := System.paced_step host s a
    generalize s.command? a = c?, s.step host a = t at h ⊢
    cases h with
    | idled _ h => exact ih.of_stirred h
    | started => exact { ih with }
    | processed _ _ hi _ h => exact (ih.of_taken hi).of_stirred h
    | @shutDown rest u _ _ hi h => exact ((ih.of_taken hi).of_stirred h).of_stop
    | closed _ _ _ _ h => exact (ih.of_stirred h).of_stop

namespace System

/-- A step is the end of the wait for the command that it processes, and of no other. -/
theorem passed_step (host : Host W) (s : System W) (a : Step W) :
    (s.step host a).passed = ((s.command? a).bind Command.ticket?).toList ++ s.passed := by
  have h := paced_step host s a
  generalize s.command? a = c?, s.step host a = t at h ⊢
  cases h with
  | idled _ h => exact h.steady.passed
  | started => rfl
  | processed _ _ _ _ h => exact h.steady.passed
  | shutDown _ _ _ h => exact h.steady.passed
  | closed _ _ _ _ h => exact h.steady.passed

/-- A wait is over exactly if it was before, or if the run processed the command waited for. -/
theorem mem_passed_run (host : Host W) (s : System W) (as : List (Step W)) (k : Nat) :
    k ∈ (s.run host as).passed ↔ .barrier k ∈ s.commands host as ∨ k ∈ s.passed := by
  have hticket (c : Command) : c.ticket? = some k ↔ c = .barrier k := by
    cases c <;> simp [Command.ticket?]
  induction as generalizing s with
  | nil => simp [commands]
  | cons a as ih =>
    have hstep : k ∈ (s.step host a).passed ↔
        .barrier k ∈ (s.command? a).toList ∨ k ∈ s.passed := by
      rw [passed_step, List.mem_append]
      cases s.command? a with
      | none => simp
      | some c => simp [hticket, eq_comm]
    refine (ih (s.step host a)).trans ?_
    rw [hstep, commands, List.mem_append, or_left_comm, or_assoc]

end System

end Supervision
