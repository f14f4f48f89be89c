import Supervision.Proofs.Enactment
import Supervision.Proofs.Requests

/-!
# Abandoned attempts

A bind, and the session that may come of it, is known to the loop by its token only, and what is
reported of a bind may arrive long after the loop has let go of it, or even before the binder has
answered. Each command has a test of its own by which the loop tells what is reported of the
attempt from all else; what does not pass it is `Ignored`: the loop says so and does nothing.

A token whose bind was turned down, or whose attempt was let go of, never becomes that of an
attempt again, because each bind is asked for with a token that was not given out before. So all
that is ever reported of it is ignored, whatever becomes of later attempts
(`abandoned_attempts_are_inert`).
-/

namespace Supervision

/-- The token that a command carries. -/
def Command.token? : Command → Option BindToken
  | .connected token _ => some token
  | .sessionDied token _ => some token
  | .deathCheck failed => failed
  | _ => none

variable {W : Type} {host : Host W} {s t : System W} {token : BindToken}

/-- The command `c` was taken out of the inbox, and nothing was done but to say so. -/
def Ignored (c : Command) (s t : System W) : Prop :=
  ∃ rest said, s.inbox = c :: rest ∧
    t = { s with inbox := rest, journal := said ++ s.journal } ∧
    ∀ r ∈ said, ∃ n, r.fact = .note n

/-- The binder was asked for a bind with this token, and turned it down, or the attempt that was
made of it is over. -/
def Spent (token : BindToken) (s : System W) : Prop :=
  ∃ r ∈ s.journal, ∃ q a, r.fact = .call (.bind q a) ∧ q.token = token ∧
    (a.isOk = true → s.loop.attempt ≠ some token)

/-! ## What is ignored -/

namespace System

/-- A command on which the loop only says something is ignored, since the status stands. -/
theorem ignored_of_obey (hs : Reachable host s) {a : Step W} {c : Command} (n : Note)
    (h : s.command? a = some c) (hc : c ≠ .shutdown)
    (hobey : ∀ rest, (note { s with inbox := rest } (.received c)).obey host c =
      (note { s with inbox := rest } (.received c)).note n) :
    Ignored c s (s.step host a) := by
  obtain ⟨rest, -, hi, heq⟩ := exists_step_eq host h hc
  refine ⟨rest, [⟨s.clock, .note n⟩, ⟨s.clock, .note (.received c)⟩], hi, ?_, ?_⟩
  · rw [heq, hobey rest]
    exact if_pos hs.status_eq
  · simp

/-- A command is ignored if a loop like this one would only say something. -/
theorem ignored_step (hs : Reachable host s) {a : Step W} {c : Command} (n : Note)
    (h : s.command? a = some c) (hc : c ≠ .shutdown)
    (hobey : ∀ u : System W, u.loop = s.loop → u.obey host c = u.note n) :
    Ignored c s (s.step host a) :=
  ignored_of_obey hs n h hc fun _ => hobey _ rfl

theorem ignored_connected (hs : Reachable host s) {a : Step W} {transport : TransportId}
    (h : s.command? a = some (.connected token transport))
    (hlate : s.loop.attempt = some token → s.loop.state ≠ .connecting) :
    Ignored (.connected token transport) s (s.step host a) := by
  refine ignored_step hs (.connectionIgnored token) h nofun fun u hu => ?_
  refine if_neg fun hattempt => ?_
  rw [hu] at hattempt
  exact hlate hattempt.1 hattempt.2

theorem sessionDied_eq (cause : DeathCause) (ha : s.loop.attempt ≠ some token) :
    s.sessionDied host token cause = s.note (.deathIgnored token cause) :=
  if_neg fun h => ha h.1

/-- A command that carries the token of no attempt is ignored. -/
theorem ignored_of_token (hs : Reachable host s) {a : Step W} {c : Command}
    (h : s.command? a = some c) (hc : c.token? = some token) (ha : s.loop.attempt ≠ some token) :
    Ignored c s (s.step host a) := by
  cases c with
  | connected t transport =>
    obtain rfl := Option.some.inj hc
    exact ignored_connected hs h fun hattempt => absurd hattempt ha
  | sessionDied t cause =>
    obtain rfl := Option.some.inj hc
    refine ignored_step hs (.deathIgnored t cause) h nofun fun u hu => ?_
    exact sessionDied_eq cause (hu ▸ ha)
  | deathCheck failed =>
    obtain rfl : failed = some token := hc
    refine ignored_step hs (.deathIgnored token .dispatchFailed) h nofun fun u hu => ?_
    exact sessionDied_eq .dispatchFailed (hu ▸ ha)
  | _ => cases hc

end System

/-! ## Tokens that are over -/

/-- A token that is over was given out, and is not that of the attempt. -/
theorem Spent.abandoned (h : Spent token s) (hs : Reachable host s) : Abandoned token s := by
  obtain ⟨r, hr, q, a, hq, rfl, hover⟩ := h
  have hrequested := hs.requested
  refine ⟨?_, hrequested.issued r hr q a hq⟩
  cases a with
  | ok b => exact hover rfl
  | error e => exact hrequested.turnedDown r hr q e hq

/-- A token that connects the loop does so in a run until it is abandoned. -/
theorem Held.of_run (hs : Held token s) (as : List (Step W)) :
    Held token (s.run host as) ∨ Abandoned token (s.run host as) := by
  induction as generalizing s with
  | nil => exact .inl hs
  | cons a as ih =>
    have h : Held token (s.step host a) ∨ Abandoned token (s.step host a) :=
      step_induct (motive := fun s => Held token s ∨ Abandoned token s) (fun _ _ _ h => h)
        (fun _ _ h hs => hs.elim (·.of_move h) fun hs => .inr (hs.of_move h)) (.inl hs) a
    rcases h with h | h
    · exact ih h
    · exact .inr (h.of_run as)

/-- The bind in flight that led to a connection does not wait for another one. -/
theorem held_or_abandoned_of_connected (hs : Reachable host s) {a : Step W}
    {transport : TransportId} (h : s.command? a = some (.connected token transport))
    (ha : s.loop.attempt = some token) (hst : s.loop.state = .connecting) :
    Held token (s.step host a) ∨ Abandoned token (s.step host a) := by
  have hlt : token.number < (s.step host a).nextToken :=
    step_induct (motive := fun t => token.number < t.nextToken) (fun _ _ _ h => h)
      (fun _ _ h hs => Nat.lt_of_lt_of_le hs h.nextToken_le) (hs.attempt_lt_nextToken token ha) a
  obtain ⟨failed, hintroduced⟩ := System.introduced_step host h ha hst
  by_cases hattempt : (s.step host a).loop.attempt = some token
  · exact .inl ⟨hintroduced.state hattempt, hattempt, hlt⟩
  · exact .inr ⟨hattempt, hlt⟩

/-- What is reported of an attempt that is over is ignored for ever. Once the binder has turned
down the bind of a token, or the attempt that was made of it is over, each command that carries
the token is ignored in every run; so is a second connection of a token that led to one already,
a report of an event that was deferred without a session, and a retry other than the one that is
scheduled. And a token leads to one replay at most, and so to one session. -/
theorem abandoned_attempts_are_inert (hs : Reachable host s) :
    (∀ token, Spent token s → ∀ as a c, (s.run host as).command? a = some c →
      c.token? = some token → Ignored c (s.run host as) ((s.run host as).step host a)) ∧
    (∀ token transport a, s.command? a = some (.connected token transport) →
      s.loop.attempt = some token → s.loop.state = .connecting →
      ∀ as b transport', ((s.step host a).run host as).command? b =
          some (.connected token transport') →
        Ignored (.connected token transport') ((s.step host a).run host as)
          (((s.step host a).run host as).step host b)) ∧
    (∀ a, s.command? a = some (.deathCheck none) →
      Ignored (.deathCheck none) s (s.step host a)) ∧
    (∀ a generation, s.command? a = some (.retryElapsed generation) →
      s.loop.retry ≠ some generation →
      Ignored (.retryElapsed generation) s (s.step host a)) ∧
    (∀ token, (s.journal.plans token).length ≤ 1) := by
  refine ⟨fun token hspent as a c hca hc => ?_,
    fun token transport a ha hattempt hst as b _ hb => ?_,
    fun a ha => ?_, fun a generation ha hretry => ?_,
    fun token => (hs.attended token).served.single⟩
  · have h : Abandoned token (s.run host as) := (hspent.abandoned hs).of_run as
    exact System.ignored_of_token (hs.run as) hca hc h.1
  · have hreachable : Reachable host ((s.step host a).run host as) := (hs.step a).run as
    refine System.ignored_connected hreachable hb fun hlate hconnecting => ?_
    rcases held_or_abandoned_of_connected hs ha hattempt hst with h | h
    · have hrun : Held token ((s.step host a).run host as) ∨
          Abandoned token ((s.step host a).run host as) := h.of_run as
      rcases hrun with h | h
      · cases h.1.symm.trans hconnecting
      · exact h.1 hlate
    · exact (h.of_run as).1 hlate
  · exact System.ignored_step hs .deferredWithoutSession ha nofun fun _ _ => rfl
  · refine System.ignored_step hs (.retryIgnored generation) ha nofun fun u hu => ?_
    exact if_neg (hu ▸ hretry)

/-- A supervisor that lost an attempt and makes another, when a connection of the first is
reported. -/
def Scenario.belated : System World :=
  (System.spawn ⟨⟨0⟩, ⟨"music"⟩, ⟨"player"⟩⟩ {} { transports := [{}] }).run Scenario.host
    [.turn, .act (.deed (.ask (.setEnabled true))), .turn,
      .act (.deed (.report (.disconnected ⟨1⟩))), .turn, .wait 1000, .fire ⟨1, 1000⟩, .turn,
      .act (.deed (.report (.connected ⟨1⟩ ⟨0⟩)))]

theorem Scenario.reachable_belated : Reachable Scenario.host belated :=
  (Reachable.spawn _ _ _ rfl).run _

theorem belated_connection_is_ignored :
    Ignored (.connected ⟨1⟩ ⟨0⟩) Scenario.belated (Scenario.belated.step Scenario.host .turn) ∧
    (Scenario.belated.step Scenario.host .turn).loop.attempt = some ⟨2⟩ := by
  obtain ⟨hinert, -⟩ := abandoned_attempts_are_inert Scenario.reachable_belated
  have hspent : Spent ⟨1⟩ Scenario.belated :=
    ⟨_, List.mem_of_getElem? (i := 15) rfl, _, _, rfl, rfl, by decide⟩
  have hcommand : Scenario.belated.command? .turn = some (.connected ⟨1⟩ ⟨0⟩) := rfl
  have h := hinert ⟨1⟩ hspent [] .turn (.connected ⟨1⟩ ⟨0⟩)
  rw [System.run_nil] at h
  exact ⟨h hcommand rfl, rfl⟩

end Supervision
