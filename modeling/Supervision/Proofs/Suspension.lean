import Supervision.Proofs.Abandonment
import Supervision.Proofs.Clearance
import Supervision.Proofs.Stopping

/-!
# Giving up

A loop that has given up still wants a connection, and much makes it try to bind: callers who enable
it once more or ask for a flush, and a retry that was scheduled before. While the retry counter
stands at its limit, all that comes of it is that the loop watches for signals. What is reported of
an attempt is ignored, since there is none. So until the loop is disabled, is stopped, or receives a
signal of ours (`Wakes`), it goes on giving up and asks the binder for nothing (`Resigned`),
whatever else it is told and however often (`System.resigned_run`).

A signal of ours sets the counter back, so `bind` comes to an attempt again within the same command.
Only what the registry answers decides what becomes of it (`System.resumed_step`).
-/

namespace Supervision

variable {W : Type} {host : Host W} {s t u : System W} {a : Step W}

/-! ## What ends a suspension -/

/-- What a loop that has given up does not sit out: it is disabled, it processes a signal of ours
that was received by the open subscription, or it stops, because it is told to or because nobody
holds on to it any more. -/
inductive Wakes (s : System W) (a : Step W) : Prop
  | disabled (h : s.command? a = some (.setEnabled false))
  | signalled {id : Subscription} {x : Signal} {changed : Bool}
      (h : s.command? a = some (.signal id x)) (hx : s.classify id x = .relevant changed)
  | shutDown (h : s.command? a = some .shutdown)
  | closed (ha : a.isTurn = true) (hi : s.inbox = []) (hheld : s.isHeld = false)

/-- No step of the run wakes the loop. -/
def Undisturbed (host : Host W) (s : System W) : List (Step W) → Prop
  | [] => True
  | a :: as => ¬Wakes s a ∧ Undisturbed host (s.step host a) as

/-- What stops the loop wakes it. -/
theorem Wakes.of_stopping (ho : s.phase ≠ .stopped) (ha : (s.step host a).phase = .stopped) :
    Wakes s a := by
  rcases System.cause_of_stopping ho ha with h | ⟨hturn, hi, hheld⟩
  · exact .shutDown h
  · exact .closed hturn hi hheld

/-! ## While the loop has given up -/

/-- The loop has given up: no bind is allowed, and there is no attempt. -/
structure Suspended (s : System W) : Prop where
  phase : s.phase ≠ .stopped
  state : s.loop.state = .givingUp
  limit : s.config.maxRetries ≤ s.loop.retryCount
  attempt : s.loop.attempt = none

/-- The loop is still giving up, and the binder was not asked for a bind. -/
structure Resigned (s t : System W) : Prop where
  state : t.loop.state = .givingUp
  journal : s.journal.GrowsBy (·.isBind = false) t.journal

theorem Resigned.trans (h : Resigned s t) (h' : Resigned t u) : Resigned s u :=
  ⟨h'.state, h.journal.trans h'.journal⟩

/-- A loop gives up because too many binds were tried, and not because it stops. -/
theorem Reachable.suspended (hs : Reachable host s) (hg : s.loop.state = .givingUp) :
    Suspended s := by
  have hopen : s.phase ≠ .stopped := fun hstopped => by
    rw [← hs.atRest hstopped] at hg
    cases hg
  have hidle : s.loop.state.isIdle = true := by rw [hg]; rfl
  exact ⟨hopen, hg, UInt32.le_of_eq ((hs.sensible hopen).sound.givingUp hg).symm,
    (hs.coherent.idle hidle).1⟩

namespace System

theorem resigned_note (hs : Suspended s) (n : Note) : Resigned s (s.note n) := ⟨hs.state, .cons rfl⟩

/-- Whatever makes the loop try to bind, it only watches for signals. -/
theorem resigned_bind (host : Host W) (hs : Suspended s) : Resigned s (s.bind host) := by
  have hbind : s.bind host = s.giveUp host := by
    unfold bind attemptBind
    simp only [hs.state, if_pos hs.limit]
  have htacit := tacit_giveUp host (s := s) (by rw [hs.state]; rfl)
  rw [hbind]
  refine ⟨?_, htacit.journal.imp fun _ => Fact.isBind_eq_false_of_isTacit⟩
  simp only [giveUp, if_pos hs.state]
  obtain ⟨watching, h⟩ := exists_loop_watch host { s with loop.state := .givingUp }
  rw [h]

theorem resigned_sessionDied (host : Host W) (hs : Suspended s) (token : BindToken)
    (cause : DeathCause) : Resigned s (s.sessionDied host token cause) := by
  rw [sessionDied_eq cause (by rw [hs.attempt]; nofun)]
  exact resigned_note hs _

theorem resigned_retryElapsed (host : Host W) (hs : Suspended s) (generation : Nat) :
    Resigned s (s.retryElapsed host generation) := by
  have hused (n : Note) : Suspended ({ s with loop.retry := none }.note n) := { hs with }
  have hnote (n : Note) : Resigned s ({ s with loop.retry := none }.note n) := ⟨hs.state, .cons rfl⟩
  unfold retryElapsed
  split
  · simp only
    split
    · exact (hnote .retrying).trans (resigned_bind host (hused .retrying))
    · exact hnote .retrySkipped
  · exact resigned_note hs _

theorem resigned_obey (host : Host W) (hs : Suspended s) {c : Command}
    (henabled : c ≠ .setEnabled false) (hc : c ≠ .shutdown)
    (hsignal : ∀ id x changed, c = .signal id x → s.classify id x ≠ .relevant changed) :
    Resigned s (s.obey host c) := by
  have hwanted (flushing : Bool) :
      Suspended { s with loop.desired := true, loop.flushing := flushing } := { hs with }
  have hunasked : s.journal.GrowsBy (·.isBind = false) s.journal := .refl _
  cases c with
  | setEnabled enabled =>
    cases enabled with
    | true => exact { resigned_bind host (hwanted s.loop.flushing) with }
    | false => exact absurd rfl henabled
  | flushAndUnbind => exact { resigned_bind host (hwanted true) with }
  | connected token transport =>
    have hlate : ¬(s.loop.attempt = some token ∧ s.loop.state = .connecting) := by
      rw [hs.attempt]
      nofun
    rw [obey, connected, if_neg hlate]
    exact resigned_note hs _
  | sessionDied token cause => exact resigned_sessionDied host hs token cause
  | deathCheck failed =>
    cases failed with
    | none => exact resigned_note hs _
    | some token => exact resigned_sessionDied host hs token _
  | retryElapsed generation => exact resigned_retryElapsed host hs generation
  | signal id x =>
    simp only [obey, signalled]
    split <;> rename_i hx
    · exact resigned_note hs _
    · exact resigned_note hs _
    · exact absurd hx (hsignal id x _ rfl)
  | setChangeListener l => exact ⟨hs.state, hunasked⟩
  | barrier ticket => exact ⟨hs.state, hunasked⟩
  | shutdown => exact absurd rfl hc

/-- A step that does not wake a loop that has given up leaves it so. -/
theorem resigned_step (host : Host W) (hs : Suspended s) (ha : ¬Wakes s a) :
    Resigned s (s.step host a) := by
  have h := turned_step host s a
  generalize hc : s.command? a = c?, ht : s.step host a = t at h ⊢
  cases h with
  | offstage h => exact ⟨h.loop ▸ hs.state, h.journal.imp fun _ => Fact.isBind_eq_false⟩
  | started => exact ⟨hs.state, .cons rfl⟩
  | @processed c rest _ _ hshutdown =>
    have hreceived : Suspended ({ s with inbox := rest }.note (.received c)) := { hs with }
    have hobey : Resigned _ _ := resigned_obey host hreceived
      (fun h => ha (.disabled (h ▸ hc))) hshutdown
      fun _ _ _ h hx => ha (.signalled (h ▸ hc) hx)
    simp only [process, if_neg hshutdown]
    generalize ({ s with inbox := rest }.note (.received c)).obey host c = v at hobey ⊢
    have hpublished := (uninquired_publish v).imp fun _ => Fact.isBind_of_isInquiry_eq_false
    exact ⟨(loop_publish v).symm ▸ hobey.state, .trans (.cons rfl) (hobey.journal.trans hpublished)⟩
  | shutDown => exact absurd (.shutDown hc) ha
  | closed =>
    have hstopped : (s.step host a).phase = .stopped := ht.symm ▸ rfl
    exact absurd (.of_stopping hs.phase hstopped) ha

/-- A loop that has given up goes on doing so until something wakes it. -/
theorem resigned_run (hs : Reachable host s) (hg : s.loop.state = .givingUp) {as : List (Step W)}
    (hu : Undisturbed host s as) : Resigned s (s.run host as) := by
  induction as generalizing s with
  | nil => exact ⟨hg, .refl _⟩
  | cons a as ih =>
    have hstep := resigned_step host (hs.suspended hg) hu.1
    exact hstep.trans (ih (hs.step a) hstep.state hu.2)

end System

/-! ## What the registry answers -/

/-- The extension was found. -/
theorem Resolved.inquired_ok (h : Resolved s t (.ok ())) :
    Inquired [.ok (), .ok ()] 0 s.journal t.journal := by
  cases h with
  | found => exact (Inquired.answered rfl rfl).trans (.answered rfl rfl)

/-- The extension was not found. -/
theorem Resolved.inquired_error {e : Error} (h : Resolved s t (.error e)) :
    ∃ answers, .error e ∈ answers ∧ Inquired answers 0 s.journal t.journal := by
  cases h with
  | packageMissing => exact ⟨[.error e], List.mem_singleton_self _, .answered rfl rfl⟩
  | componentMissing =>
    exact ⟨[.ok (), .error e], by simp, (Inquired.answered rfl rfl).trans (.answered rfl rfl)⟩

/-! ## Taking up again -/

/-- The counter was set back, and either the registry had the extension and the binder was asked
once, or it did not and the loop waits with a fresh counter. -/
structure Resumed (s t : System W) : Prop where
  reset : ∃ new, t.journal = new ++ s.journal ∧ new.any (·.fact.isReset) = true
  outcome : Inquired [.ok (), .ok ()] 1 s.journal t.journal ∧ t.status.retryCount = 1 ∨
    (∃ answers e, .error e ∈ answers ∧ Inquired answers 0 s.journal t.journal) ∧
      t.status.state = .unbound ∧ t.status.retryCount = 0

theorem Reachable.maxRetries_pos (hs : Reachable host s) : 0 < s.config.maxRetries := by
  induction hs with
  | spawn _ c _ hc => exact (Config.validate_eq_ok_iff c).1 hc
  | step hs a ih =>
    rw [System.config_step hs.poised.toTidy a]
    exact ih

theorem Reachable.config_run (hs : Reachable host s) (as : List (Step W)) :
    (s.run host as).config = s.config := by
  induction as generalizing s with
  | nil => rfl
  | cons a as ih => exact (ih (hs.step a)).trans (System.config_step hs.poised.toTidy a)

namespace System

theorem retryCount_tryBind (host : Host W) (hb : s.loop.binding = none) :
    (s.tryBind host).loop.retryCount = s.loop.retryCount + 1 := by
  have h := tried_tryBind host hb
  generalize s.tryBind host = t at h ⊢
  cases h with
  | accepted h => exact congrArg Loop.retryCount h.loop
  | @failed e u h =>
    obtain ⟨g, generation, heq⟩ := exists_loop_scheduleRetry { u with loop.state := .unbound }
    rw [heq]
    exact congrArg Loop.retryCount h.loop

/-- A bind with a fresh counter: all depends on what the registry answers. -/
theorem inquired_attemptBind (host : Host W) (hn : s.loop.retryCount = 0)
    (hmax : 0 < s.config.maxRetries) (hb : s.loop.binding = none) :
    Inquired [.ok (), .ok ()] 1 s.journal (s.attemptBind host).journal ∧
      (s.attemptBind host).loop.retryCount = 1 ∨
    (∃ answers e, .error e ∈ answers ∧
        Inquired answers 0 s.journal (s.attemptBind host).journal) ∧
      (s.attemptBind host).loop.state = .unbound ∧ (s.attemptBind host).loop.retryCount = 0 := by
  obtain ⟨u, r, hu, heq⟩ := exists_attemptBind_eq (v := s) host (hn ▸ hmax)
  have hl : u.loop = s.loop := by cases hu <;> rfl
  rw [heq]
  cases r with
  | ok x =>
    have hub : u.loop.binding = none := hl ▸ hb
    refine .inl ⟨hu.inquired_ok.trans (inquired_tryBind host hub), ?_⟩
    rw [retryCount_tryBind host hub, hl, hn]
    rfl
  | error e =>
    obtain ⟨answers, he, hinquired⟩ := hu.inquired_error
    have hwatch : Inquired [] 0 u.journal ((u.note (.notAvailable e)).watch host).journal :=
      .of_growsBy (.trans (.cons rfl) (uninquired_watch host _))
    obtain ⟨watching, hw⟩ := exists_loop_watch host (u.note (.notAvailable e))
    have h := hinquired.trans hwatch
    rw [List.append_nil] at h
    refine .inr ⟨⟨answers, e, he, h⟩, rfl, ?_⟩
    simp only [hw, loop_note, hl, hn]

/-- A signal of ours sets the counter of a loop back that has given up. -/
theorem resets_of_relevant (hs : Suspended s) {id : Subscription} {x : Signal} {changed : Bool}
    (hx : s.classify id x = .relevant changed) : s.resets (.signal id x) = true := by
  obtain ⟨hwatching, hconcerns⟩ := eq_of_classify_eq_relevant hx
  exact decide_eq_true ⟨hwatching, hconcerns, hs.limit⟩

/-- A signal of ours leads a loop that has given up to `bind` with a fresh counter. -/
theorem exists_availabilityChanged_eq_attemptBind (host : Host W) (hs : Suspended s)
    (hd : s.loop.desired = true) (x : Signal) (changed : Bool) : ∃ u, Approach host s u ∧
      u.loop = { s.loop with watching := none, retryCount := 0, state := .unbound } ∧
      s.availabilityChanged host x changed = u.attemptBind host := by
  obtain ⟨t, u, ht, hl, hu, heq⟩ := exists_approach_availabilityChanged host s x changed
  have hclosed : Approach host s (t.unwatch host) := ht.trans (.unwatch host t)
  have hallowed : Approach host s u := hu ▸ hclosed.trans (.allowBinds host _)
  have hul : u.loop = { s.loop with watching := none, retryCount := 0, state := .unbound } := by
    obtain ⟨r, hbooks⟩ := hclosed.books
    rw [hu, loop_allowBinds, loop_unwatch, hl, hbooks.config_eq]
    simp only [if_pos hs.limit, if_pos hs.state]
  have hbind : (u.note .rebinding).bind host = (u.note .rebinding).attemptBind host := by
    unfold bind
    simp only [loop_note, hul]
  refine ⟨u.note .rebinding, hallowed.trans (.note host u rfl rfl), hul, ?_⟩
  rw [heq, if_pos (by rw [hul]; exact hd), hbind]

/-- A signal of ours makes a loop that has given up take up again within the same command. -/
theorem resumed_step (hs : Reachable host s) (hg : s.loop.state = .givingUp)
    {id : Subscription} {x : Signal} {changed : Bool} (hc : s.command? a = some (.signal id x))
    (hx : s.classify id x = .relevant changed) : Resumed s (s.step host a) := by
  have hsuspended := hs.suspended hg
  have hd : s.loop.desired = true := by
    refine (hs.sensible hsuspended.phase).sound.wanted fun hst => ?_
    cases hg.symm.trans hst
  have hbinding : s.loop.binding = none := hs.poised.unburdened (by rw [hg]; rfl)
  have hbooks : Books ((s.command? a).any s.resets) s (s.step host a) :=
    books_step hs.poised.toTidy a
  obtain ⟨new, hj, hnew⟩ := hbooks.exists_journal_eq
  rw [hc, Option.any_some, resets_of_relevant hsuspended hx] at hnew
  refine ⟨⟨new, hj, hnew⟩, ?_⟩
  obtain ⟨rest, -, -, heq⟩ := exists_step_eq host hc nofun
  have hreceived : Suspended (note { s with inbox := rest } (.received (.signal id x))) :=
    { hsuspended with }
  have hobey := obey_of_relevant (s := note { s with inbox := rest } (.received (.signal id x)))
    host hx
  obtain ⟨u, hu, hul, hchanged⟩ :=
    exists_availabilityChanged_eq_attemptBind host hreceived hd x changed
  -- all inquiries of the step are those of the attempt
  have hbefore : Inquired [] 0 s.journal u.journal := .of_growsBy (.trans (.cons rfl) hu.journal)
  have hmax : 0 < u.config.maxRetries := by
    obtain ⟨r, hbooks⟩ := hu.books
    exact hbooks.config_eq ▸ hs.maxRetries_pos
  have hafter : Inquired [] 0 (u.attemptBind host).journal (s.step host a).journal := by
    rw [heq, hobey, hchanged]
    exact .of_growsBy (uninquired_publish _)
  have hloop : (s.step host a).loop = (u.attemptBind host).loop := by
    rw [heq, hobey, hchanged, loop_publish]
  rw [(hs.step a).status_eq, hloop]
  rcases inquired_attemptBind host (by rw [hul]) hmax (by rw [hul]; exact hbinding) with
    ⟨hinquired, hcount⟩ | ⟨⟨answers, e, he, hinquired⟩, hst, hcount⟩
  · exact .inl ⟨(hbefore.trans hinquired).trans hafter, hcount⟩
  · have h := (hbefore.trans hinquired).trans hafter
    rw [List.nil_append, List.append_nil] at h
    exact .inr ⟨⟨answers, e, he, { h with }⟩, hst, hcount⟩

end System

/-- A loop that has given up goes on doing so in every run that does not wake it: its state and its
counter stand, and the binder is asked for no bind. The first signal of ours then sets the counter
back and, in the same command, makes the loop bind again, once, if the registry has the extension;
if not, the loop is left unbound with a fresh counter. -/
theorem giving_up_lasts_until_update (hs : Reachable host s) (hg : s.status.state = .givingUp)
    {as : List (Step W)} (hu : Undisturbed host s as) :
    (s.run host as).status.state = .givingUp ∧
    (s.run host as).status.retryCount = s.config.maxRetries ∧
    s.journal.GrowsBy (·.isBind = false) (s.run host as).journal ∧
    ∀ a id x changed, (s.run host as).command? a = some (.signal id x) →
      (s.run host as).classify id x = .relevant changed →
      Resumed (s.run host as) ((s.run host as).step host a) := by
  rw [hs.status_eq] at hg
  obtain ⟨hstate, hjournal⟩ := System.resigned_run hs hg hu
  have hrun : Reachable host (s.run host as) := hs.run as
  have hsuspended := hrun.suspended hstate
  rw [hrun.status_eq, ← hs.config_run as]
  exact ⟨hstate, (hrun.sensible hsuspended.phase).sound.givingUp hstate, hjournal,
    fun a id x changed hc hx => System.resumed_step hrun hstate hc hx⟩

/-- A supervisor that gave up after its only bind was turned down, and whose signals are to come. -/
def Scenario.resigned : System World :=
  (System.spawn ⟨⟨0⟩, ⟨"music"⟩, ⟨"player"⟩⟩ { maxRetries := 1 }
      { script := [{ mode := .reject "busy" }] }).run Scenario.host
    [.turn, .act (.deed (.ask (.setEnabled true))), .turn, .wait 1000, .fire ⟨1, 1000⟩, .turn]

theorem Scenario.reachable_resigned : Reachable Scenario.host resigned :=
  (Reachable.spawn _ _ _ rfl).run _

/-- It is enabled once more, and then its package is installed. -/
def Scenario.updated : List (Step World) :=
  [.act (.deed (.ask (.setEnabled true))), .turn,
    .act (.deed (.report (.signal ⟨0⟩ ⟨.packageInstalled, some ⟨"music"⟩⟩)))]

theorem Scenario.undisturbed_updated : Undisturbed Scenario.host resigned updated := by
  have hcommand : (resigned.step Scenario.host
      (.act (.deed (.ask (.setEnabled true))))).command? .turn = some (.setEnabled true) := rfl
  refine ⟨?_, ?_, ?_, trivial⟩
  · rintro (h | ⟨h, -⟩ | h | ⟨h, -⟩) <;> cases h
  · rintro (h | ⟨h, -⟩ | h | ⟨-, h, -⟩)
    · cases hcommand.symm.trans h
    · cases hcommand.symm.trans h
    · cases hcommand.symm.trans h
    · cases h
  · rintro (h | ⟨h, -⟩ | h | ⟨h, -⟩) <;> cases h

theorem resigned_resumes :
    Scenario.resigned.status.state = .givingUp ∧
    ((Scenario.resigned.run Scenario.host Scenario.updated).status.state = .givingUp ∧
      (Scenario.resigned.run Scenario.host Scenario.updated).status.retryCount = 1) ∧
    Resumed (Scenario.resigned.run Scenario.host Scenario.updated)
      ((Scenario.resigned.run Scenario.host Scenario.updated).step Scenario.host .turn) := by
  have hstate : Scenario.resigned.status.state = .givingUp := rfl
  obtain ⟨hlasting, hcount, -, hresumed⟩ :=
    giving_up_lasts_until_update Scenario.reachable_resigned hstate Scenario.undisturbed_updated
  have hmax : Scenario.resigned.config.maxRetries = 1 := rfl
  exact ⟨hstate, ⟨hlasting, hcount.trans hmax⟩, hresumed .turn ⟨0⟩ _ false rfl rfl⟩

end Supervision
