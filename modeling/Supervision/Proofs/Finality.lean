import Supervision.Proofs.Bindings
import Supervision.Proofs.Reconnects
import Supervision.Proofs.Recounting
import Supervision.Proofs.Subscriptions
import Supervision.Proofs.Tickets

/-!
# The stop is clean and final

When callers have told the loop to stop, or nobody holds on to it any more, its end is settled:
it processes the commands that were posted until then, in order and nothing besides, and stops
(`Doomed`). Nobody can hold it up, since what is posted meanwhile goes behind them, or is dropped.
So the turn in which it stops can be told, and what is said to each caller who waits.

The stop itself lets go of all that the loop asked of its collaborators (`Vacant`), and nothing
happens after it but what callers do: they go on telling the extension things, all of which wait
(`Final`).
-/

namespace Supervision

variable {W : Type} {host : Host W} {s t : System W} {a : Step W} {cs fin : List Command}

/-! ## The commands before the stop -/

/-- The loop is to process `cs` and then to stop, by a last command if it was told to, or else
because nobody holds on to it. -/
inductive Doomed (cs : List Command) : List Command → System W → Prop
  | told {s : System W} (ho : s.phase ≠ .stopped) (hcs : .shutdown ∉ cs)
      (hi : cs ++ [.shutdown] <+: s.inbox) : Doomed cs [.shutdown] s
  | dropped {s : System W} (ho : s.phase ≠ .stopped) (hcs : .shutdown ∉ cs) (hi : s.inbox = cs)
      (hheld : s.isHeld = false) : Doomed cs [] s

/-- How many turns a loop takes before its first command. -/
def System.lead (s : System W) : Nat := if s.phase = .ready then 1 else 0

namespace Doomed

theorem phase_ne (hs : Doomed cs fin s) : s.phase ≠ .stopped := by
  cases hs with
  | told ho => exact ho
  | dropped ho => exact ho

theorem of_steady (hs : Doomed cs fin s) (h : Steady s t) : Doomed cs fin t := by
  cases hs with
  | told ho hcs hi => exact .told (h.phase ▸ ho) hcs (hi.trans h.inbox)
  | dropped ho hcs hi hheld =>
    have hclosed : s.accepts = false := by rw [System.accepts, hheld, Bool.false_and]
    refine .dropped (h.phase ▸ ho) hcs ((h.closed hclosed).trans hi) ?_
    exact Bool.eq_false_iff.2 fun ht => by cases hheld.symm.trans (h.held ht)

/-- The first command is taken out of the inbox. -/
theorem of_taken (hs : Doomed cs fin s) {c : Command} {rest : List Command}
    (hi : s.inbox = c :: rest) (hc : c ≠ .shutdown) (passed : List Nat) : ∃ cs', cs = c :: cs' ∧
      Doomed cs' fin { s with inbox := rest, passed := passed } := by
  cases hs with
  | told ho hcs hq =>
    rw [hi] at hq
    cases cs with
    | nil => exact absurd (List.cons_prefix_cons.1 hq).1.symm hc
    | cons c' cs' =>
      obtain ⟨rfl, hrest⟩ := List.cons_prefix_cons.1 hq
      exact ⟨cs', rfl, .told ho (List.not_mem_of_not_mem_cons hcs) hrest⟩
  | dropped ho hcs hq hheld =>
    obtain rfl := hq.symm.trans hi
    exact ⟨rest, rfl, .dropped ho (List.not_mem_of_not_mem_cons hcs) rfl hheld⟩

/-- With an empty inbox the loop is to stop because nobody holds on to it. -/
theorem of_nil (hs : Doomed cs fin s) (hi : s.inbox = []) :
    cs = [] ∧ fin = [] ∧ s.isHeld = false := by
  cases hs with
  | told _ _ hq => simp [hi] at hq
  | dropped _ _ hq hheld => exact ⟨hq.symm.trans hi, rfl, hheld⟩

/-- The loop is told to stop after all that it was to process. -/
theorem of_shutdown (hs : Doomed cs fin s) {rest : List Command}
    (hi : s.inbox = .shutdown :: rest) : cs = [] ∧ fin = [.shutdown] := by
  cases hs with
  | told _ hcs hq =>
    rw [hi] at hq
    cases cs with
    | nil => exact ⟨rfl, rfl⟩
    | cons c cs' =>
      obtain ⟨rfl, -⟩ := List.cons_prefix_cons.1 hq
      exact absurd (List.mem_cons_self ..) hcs
  | dropped _ hcs hq =>
    rw [← hq, hi] at hcs
    exact absurd (List.mem_cons_self ..) hcs

/-- A turn processes the next command, or stops the loop if none is left; all else leaves the
commands as they are. -/
theorem of_step (hs : Doomed cs fin s) (host : Host W) (a : Step W) :
    cs = [] ∧ s.lead = 0 ∧ a.isTurn = true ∧ (s.command? a).toList = fin ∧
      (s.step host a).phase = .stopped ∨
    ∃ cs', Doomed cs' fin (s.step host a) ∧ (s.command? a).toList ++ cs' = cs ∧
      cs'.length + (s.step host a).lead + (if a.isTurn then 1 else 0) = cs.length + s.lead := by
  have h := System.paced_step host s a
  generalize s.command? a = c?, s.step host a = t at h ⊢
  cases h with
  | idled ha h =>
    have hturn : a.isTurn = false := by
      refine Bool.eq_false_iff.2 fun hturn => ?_
      rcases ha hturn with hstopped | ⟨-, hi, hheld⟩
      · exact hs.phase_ne hstopped
      · cases (hs.of_nil hi).2.2.symm.trans hheld
    refine .inr ⟨cs, hs.of_steady h.steady, rfl, ?_⟩
    simp [hturn, System.lead, h.steady.phase]
  | started ha hready =>
    refine .inr ⟨cs, ?_, rfl, by simp [ha, hready, System.lead]⟩
    cases hs with
    | told _ hcs hi => exact .told nofun hcs hi
    | dropped _ hcs hi hheld => exact .dropped nofun hcs hi hheld
  | @processed c rest t ha hrun hi hc h =>
    obtain ⟨cs', rfl, htaken⟩ := hs.of_taken hi hc (c.ticket?.toList ++ s.passed)
    refine .inr ⟨cs', htaken.of_steady h.steady, rfl, ?_⟩
    have hphase : t.phase = .running := h.steady.phase.trans hrun
    simp [ha, hrun, hphase, System.lead]
  | shutDown ha hrun hi =>
    obtain ⟨rfl, rfl⟩ := hs.of_shutdown hi
    exact .inl ⟨rfl, by simp [hrun, System.lead], ha, rfl, rfl⟩
  | closed ha hrun hi =>
    obtain ⟨rfl, rfl, -⟩ := hs.of_nil hi
    exact .inl ⟨rfl, by simp [hrun, System.lead], ha, rfl, rfl⟩

end Doomed

/-- In a run the loop processes all that it was to and stops, or some of it and is still to process
the rest, which takes so many turns less. -/
theorem Doomed.of_run (hs : Doomed cs fin s) (host : Host W) (as : List (Step W)) :
    (s.run host as).phase = .stopped ∧ s.commands host as = cs ++ fin ∧
      cs.length + s.lead < as.countP Step.isTurn ∨
    ∃ cs', Doomed cs' fin (s.run host as) ∧ s.commands host as ++ cs' = cs ∧
      cs'.length + (s.run host as).lead + as.countP Step.isTurn = cs.length + s.lead := by
  induction as generalizing s cs with
  | nil => exact .inr ⟨cs, hs, rfl, rfl⟩
  | cons a as ih =>
    rw [System.run_cons, System.commands, List.countP_cons]
    rcases hs.of_step host a with ⟨rfl, hlead, ha, hfin, hstopped⟩ | ⟨cs', hs', rfl, hturns⟩
    · obtain ⟨hcommands, hrun⟩ := System.offstage_run_of_stopped hstopped host as
      refine .inl ⟨hrun.phase.trans hstopped,
        by rw [hcommands, hfin, List.append_nil, List.nil_append], ?_⟩
      simp [ha, hlead]
    · rcases ih hs' with ⟨hrun, hcommands, hlt⟩ | ⟨cs'', hs'', hcommands, hlength⟩
      · refine .inl ⟨hrun, by rw [hcommands, List.append_assoc], ?_⟩
        omega
      · refine .inr ⟨cs'', hs'', by rw [List.append_assoc, hcommands], ?_⟩
        omega

/-! ## Callers who wait -/

/-- When the loop stops, the callers who waited for a command before the stop were answered, and all
others who wait are told that the loop is gone. -/
theorem Doomed.reply?_run (hs : Doomed cs fin s) (host : Host W) {as : List (Step W)}
    (hstopped : (s.run host as).phase = .stopped) (k : Nat) : (s.run host as).reply? k =
      if .barrier k ∈ cs ∨ k ∈ s.passed then some (.ok ()) else some (.error .channelClosed) := by
  have hcommands : s.commands host as = cs ++ fin := by
    rcases hs.of_run host as with ⟨-, h, -⟩ | ⟨cs', hs', -⟩
    · exact h
    · exact absurd hstopped hs'.phase_ne
  have hfin : .barrier k ∉ fin := by
    cases hs with
    | told => simp
    | dropped => exact List.not_mem_nil
  have hpassed : k ∈ (s.run host as).passed ↔ .barrier k ∈ cs ∨ k ∈ s.passed := by
    refine (System.mem_passed_run host s as k).trans ?_
    rw [hcommands, List.mem_append, or_iff_left hfin]
  simp only [System.reply?, List.contains_iff_mem, hpassed, System.isOpen, hstopped]
  rfl

/-- Whoever waits behind a command waits for none before it. -/
theorem Ticketed.behind (hs : Ticketed s) {c : Command} {behind : List Command} {k : Nat}
    (hi : s.inbox = cs ++ c :: behind) (hk : .barrier k ∈ behind ∨ s.nextTicket ≤ k) :
    ¬(.barrier k ∈ cs ∨ k ∈ s.passed) := by
  have ticket {l : List Command} (h : .barrier k ∈ l) : k ∈ l.filterMap Command.ticket? :=
    List.mem_filterMap.2 ⟨_, h, rfl⟩
  rcases hk with hbehind | hnew
  · have hlater : k ∈ (c :: behind).filterMap Command.ticket? :=
      ticket (List.mem_cons_of_mem c hbehind)
    have hnodup := hs.nodup
    rw [System.tickets, hi, List.filterMap_append, List.append_assoc] at hnodup
    obtain ⟨-, hrest, hbefore⟩ := List.nodup_append.1 hnodup
    rintro (h | h)
    · exact hbefore k (ticket h) k (List.mem_append_left _ hlater) rfl
    · exact (List.nodup_append.1 hrest).2.2 k hlater k h rfl
  · intro h
    refine Nat.not_lt.2 hnew (hs.issued k ?_)
    rw [System.tickets, hi]
    rcases h with h | h
    · exact List.mem_append_left _ (ticket (List.mem_append_left _ h))
    · exact List.mem_append_right _ h

/-! ## What is left after the stop -/

/-- Nothing remains of what the loop asked of its collaborators. -/
structure Vacant (s : System W) : Prop where
  /-- The loop has no attempt, no binding, no session, no subscription and no retry. -/
  loop : s.loop.atRest = s.loop
  slot : s.slot = none
  timers : s.timers = []
  inbox : s.inbox = []
  /-- The handles that the binder gave were given back, in order. -/
  returned : s.journal.returned = s.journal.granted
  /-- The subscriptions that were opened were closed, in order. -/
  closed : s.journal.closed = s.journal.opened

/-- What the stop takes out of the inbox does not come back. -/
theorem Reachable.inbox_eq_nil (hs : Reachable host s) (hstopped : s.phase = .stopped) :
    s.inbox = [] := by
  induction hs with
  | spawn => cases hstopped
  | @step s _ a ih =>
    have h := System.paced_step host s a
    generalize s.command? a = c?, s.step host a = t at h hstopped ⊢
    cases h with
    | idled _ h =>
      have hs : s.phase = .stopped := h.steady.phase.symm.trans hstopped
      rw [h.steady.closed (by simp [System.accepts, System.isOpen, hs]), ih hs]
    | started => cases hstopped
    | processed _ hrun _ _ h => cases (h.steady.phase.symm.trans hstopped).symm.trans hrun
    | shutDown => rfl
    | closed => rfl

theorem Reachable.vacant (hs : Reachable host s) (hstopped : s.phase = .stopped) : Vacant s := by
  have hrest := hs.atRest hstopped
  have hstate : s.loop.state = .unbound := congrArg Loop.state hrest.symm
  have hretry : s.loop.retry = none := congrArg Loop.retry hrest.symm
  have hwatching : s.loop.watching = none := congrArg Loop.watching hrest.symm
  exact {
    loop := hrest
    slot := Option.eq_none_iff_forall_ne_some.2 fun x hx => by
      cases hstate.symm.trans (hs.coherent.slot x hx).1
    timers := hs.armed.timers_eq_nil hretry
    inbox := hs.inbox_eq_nil hstopped
    returned := by simpa [hs.poised.unburdened (by rw [hstate]; rfl)] using hs.balanced.balance
    closed := by simpa [hwatching] using hs.tended.balance }

/-! ## After the stop -/

/-- A call of a collaborator. -/
def Fact.isContact : Fact → Bool
  | .call _ => true
  | _ => false

theorem Fact.isContact_of_isLate {f : Fact} (h : f.isLate = true) : f.isContact = false := by
  unfold isContact
  split
  · cases h
  · rfl

namespace System

/-- Of the deeds only a lookup of the metadata calls a collaborator. -/
theorem uncalled_perform (host : Host W) (s : System W) {d : Deed} (hd : d ≠ .lookUp) :
    s.journal.GrowsBy (·.isContact = false) (s.perform host d).journal := by
  cases d with
  | ask r => exact (late_ask s r).imp fun _ => Fact.isContact_of_isLate
  | report r => exact (late_notify s _).imp fun _ => Fact.isContact_of_isLate
  | lookUp => exact absurd rfl hd
  | clone =>
    simp only [perform]
    split
    · exact .refl _
    · exact .refl _
  | drop => exact .refl _
  | drawToken => exact .refl _

/-- Without a session in the slot, callers who tell the extension something call nobody. -/
theorem uncalled_tell (host : Host W) (hs : s.slot = none) (e : LifecycleEvent) :
    s.journal.GrowsBy (·.isContact = false) (s.tell host e).journal := by
  have hconvey (t : System W) (ht : t.slot = none) :
      t.journal.GrowsBy (·.isContact = false) (t.convey host e).journal := by
    unfold convey
    split
    · simp only [setListening, ht]
      exact .refl _
    · simp only [deliver, ht]
      have hsubmit := late_submit ((t.defer e).note (.deferred e)) (.deathCheck none)
      exact .trans (.cons rfl) (hsubmit.imp fun _ => Fact.isContact_of_isLate)
  unfold tell
  split
  · exact .refl _
  · exact .trans (.cons rfl) (hconvey (s.record (.told e s.slot)).enter hs)

/-- After the stop only a caller who looks up the metadata makes a call. -/
theorem uncalled_step (hs : Vacant s) (hstopped : s.phase = .stopped) (host : Host W) {a : Step W}
    (ha : a ≠ .act (.deed .lookUp)) :
    s.journal.GrowsBy (·.isContact = false) (s.step host a).journal := by
  cases a with
  | act a =>
    cases a with
    | deed d => exact uncalled_perform host s fun hd => ha (hd ▸ rfl)
    | tell e => exact uncalled_tell host hs.slot e
  | turn =>
    simp only [step, turn, hstopped]
    exact .refl _
  | fire x =>
    simp only [step, hs.timers, List.not_mem_nil, false_and, if_false]
    exact .refl _
  | wait span => exact .refl _
  | leave count => exact .refl _
  | drift w => exact .refl _

end System

/-- What the supervisor is like after the run `as` from its stop. -/
structure Final (host : Host W) (s : System W) (as : List (Step W)) : Prop where
  phase : (s.run host as).phase = .stopped
  status : (s.run host as).status = s.status
  vacant : Vacant (s.run host as)
  /-- No command was processed, and none ever is. -/
  commands : s.commands host as = []
  idle : (s.run host as).step host .turn = s.run host as
  /-- All that callers told the extension waits. -/
  pending : (s.run host as).pending = s.pending.recount (s.calls host as)
  /-- Whoever reports something, or is sent a signal, is told that it comes too late. -/
  accepts : (s.run host as).accepts = false
  /-- Nobody can wait for the loop any more. -/
  ticket : (s.run host as).ticket = .error .supervisorClosed
  /-- Only a caller who looks up the metadata makes a call. -/
  uncalled : ∀ b, b ≠ .act (.deed .lookUp) →
    (s.run host as).journal.GrowsBy (·.isContact = false) ((s.run host as).step host b).journal

theorem Reachable.final (hs : Reachable host s) (hstopped : s.phase = .stopped)
    (as : List (Step W)) : Final host s as := by
  obtain ⟨hcommands, hoffstage⟩ := System.offstage_run_of_stopped hstopped host as
  have hphase : (s.run host as).phase = .stopped := hoffstage.phase.trans hstopped
  have hrun : Reachable host (s.run host as) := hs.run as
  have hvacant := hrun.vacant hphase
  have hunattended := System.unattended_run (hs.vacant hstopped).slot host as
    (by simp [hcommands])
  exact {
    phase := hphase
    status := by rw [hrun.status_eq, hoffstage.loop, hs.status_eq]
    vacant := hvacant
    commands := hcommands
    idle := by simp only [System.step, System.turn, hphase]
    pending := hunattended.pending
    accepts := by simp [System.accepts, System.isOpen, hphase]
    ticket := by simp [System.ticket, System.isOpen, hphase]
    uncalled := fun b hb => System.uncalled_step hvacant hphase host hb }

/-- The stop is clean and final. The loop stops because it is told to, or because nobody holds on to
it and no command is left; it lets go of all that it has, and what it publishes last says nothing
but what was counted. Once it was told to stop, or nobody holds on to it, it processes the commands
before the stop, in order and nothing besides, and stops in the turn after them, whatever else
happens. Then the callers who wait for a command before the stop were answered, and those who wait
for a later one are told that the loop is gone. After the stop nothing is processed, the status
stands, all that callers tell the extension waits, and nobody is called unless a caller looks up the
metadata. -/
theorem stop_is_clean_and_final (hs : Reachable host s) :
    (∀ a, s.phase ≠ .stopped → (s.step host a).phase = .stopped →
      (s.command? a = some .shutdown ∨ a.isTurn = true ∧ s.inbox = [] ∧ s.isHeld = false) ∧
      (s.step host a).status =
        { retryCount := s.status.retryCount, droppedEvents := s.status.droppedEvents } ∧
      Vacant (s.step host a)) ∧
    (∀ cs fin, Doomed cs fin s → ∀ as,
      ((s.run host as).phase = .stopped ↔ cs.length + s.lead < as.countP Step.isTurn) ∧
      ((s.run host as).phase = .stopped → s.commands host as = cs ++ fin ∧
        ∀ k, .barrier k ∈ cs → (s.run host as).reply? k = some (.ok ())) ∧
      ((s.run host as).phase ≠ .stopped → s.commands host as <+: cs)) ∧
    (∀ cs behind, s.phase ≠ .stopped → .shutdown ∉ cs → s.inbox = cs ++ .shutdown :: behind →
      ∀ as, (s.run host as).phase = .stopped → ∀ k, .barrier k ∈ behind ∨ s.nextTicket ≤ k →
        (s.run host as).reply? k = some (.error .channelClosed)) ∧
    (s.phase = .stopped → ∀ as, Final host s as) := by
  refine ⟨fun a ho ha => ⟨System.cause_of_stopping ho ha, ?_, (hs.step a).vacant ha⟩,
    fun cs fin hd as => ?_, fun cs behind ho hcs hi as hstopped k hk => ?_, hs.final⟩
  · rw [(hs.step a).status_eq, hs.status_eq, System.loop_of_stopping ho ha, Loop.status_atRest]
    rfl
  · rcases hd.of_run host as with ⟨hstopped, hcommands, hlt⟩ | ⟨cs', hd', hcommands, hturns⟩
    · refine ⟨iff_of_true hstopped hlt, fun _ => ⟨hcommands, fun k hk => ?_⟩, absurd hstopped⟩
      rw [hd.reply?_run host hstopped k, if_pos (.inl hk)]
    · have ho := hd'.phase_ne
      exact ⟨iff_of_false ho (by omega), fun hstopped => absurd hstopped ho,
        fun _ => ⟨cs', hcommands⟩⟩
  · have hd : Doomed cs [.shutdown] s := .told ho hcs ⟨behind, by rw [hi, List.append_assoc]; rfl⟩
    rw [hd.reply?_run host hstopped k, if_neg (hs.ticketed.behind hi hk)]

/-- A supervisor that makes a connection when it is told to stop, with a caller who waits for a
command before the stop and one who waits for a command behind it. -/
def Scenario.leaving : System World :=
  (System.spawn ⟨⟨0⟩, ⟨"music"⟩, ⟨"player"⟩⟩ {} {}).run Scenario.host
    [.turn, .act (.deed (.ask (.setEnabled true))), .turn, .act (.deed (.ask .settle)),
      .act (.deed (.ask .shutdown)), .act (.deed (.ask .settle))]

theorem Scenario.reachable_leaving : Reachable Scenario.host leaving :=
  (Reachable.spawn _ _ _ rfl).run _

theorem leaving_stops_for_good :
    (Scenario.leaving.run Scenario.host [.turn, .turn]).phase = .stopped ∧
    Scenario.leaving.commands Scenario.host [.turn, .turn] = [.barrier 0, .shutdown] ∧
    (Scenario.leaving.run Scenario.host [.turn, .turn]).reply? 0 = some (.ok ()) ∧
    (Scenario.leaving.run Scenario.host [.turn, .turn]).reply? 1 = some (.error .channelClosed) ∧
    (Scenario.leaving.run Scenario.host [.turn, .turn]).status = { retryCount := 1 } ∧
    Final Scenario.host (Scenario.leaving.run Scenario.host [.turn, .turn])
      [.act (.tell (.click ⟨7⟩)), .turn] := by
  obtain ⟨-, hdoomed, hbehind, -⟩ := stop_is_clean_and_final Scenario.reachable_leaving
  have hinbox : Scenario.leaving.inbox = [.barrier 0] ++ .shutdown :: [.barrier 1] := rfl
  have hrunning : Scenario.leaving.phase ≠ .stopped := by decide
  obtain ⟨hiff, hreplies, -⟩ := hdoomed [.barrier 0] [.shutdown]
    (.told hrunning (by decide) ⟨[.barrier 1], hinbox.symm⟩) [.turn, .turn]
  have hstopped := hiff.2 (by decide)
  obtain ⟨hcommands, hbefore⟩ := hreplies hstopped
  -- the second turn is the one that stops the loop
  have hreachable := Scenario.reachable_leaving.run [.turn]
  obtain ⟨hclean, -⟩ := stop_is_clean_and_final hreachable
  obtain ⟨-, hstatus, -⟩ := hclean .turn (by decide) hstopped
  obtain ⟨-, -, -, hfinal⟩ := stop_is_clean_and_final (hreachable.step .turn)
  exact ⟨hstopped, hcommands, hbefore 0 (by decide),
    hbehind [.barrier 0] [.barrier 1] hrunning (by decide) hinbox _ hstopped 1 (.inl (by decide)),
    hstatus.trans rfl, hfinal hstopped _⟩

end Supervision
