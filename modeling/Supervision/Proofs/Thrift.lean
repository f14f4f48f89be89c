import Supervision.Proofs.Suspension
import Supervision.Proofs.Timekeeping

/-!
# What a loop can afford

Until its retry counter is reset, a loop lives on what it has. Each bind uses up one of those that
are still allowed (`System.headroom`). A retry is scheduled when a bind failed, or when the attempt
at hand died, and a new attempt only comes of a bind; so each retry that is scheduled, and with it
each that takes effect, is paid for as well (`System.credit`, `System.prospects`). And unless a bind
is tried, an attempt dies or a subscription is opened (`System.funds`), a command makes nobody post
another one that has the loop see to its connection (`System.urgent`).

`Thrifty host s t` says that `t` was come by in this way. All commands that do not reset the counter
are thrifty (`System.thrifty_obey`), whatever collaborators answer and do; so the retries of a whole
run are bounded by what was there at its start (`System.retried_le`).
-/

namespace Supervision

variable {W : Type} {host : Host W} {s t u : System W}

/-! ## What the loop lives on -/

/-- The command has the loop see to it that it is connected, unless it counts its binds anew. -/
def Command.isUrgent : Command → Bool
  | .setEnabled enabled => enabled
  | .retryElapsed _ => true
  | _ => false

namespace System

/-- How many binds may still be tried before the counter is reset. -/
def headroom (s : System W) : Nat := s.config.maxRetries.toNat - s.loop.retryCount.toNat

/-- How many retries may still be scheduled: one for each bind that may still be tried, and one for
the attempt at hand. -/
def credit (s : System W) : Nat := s.headroom + s.loop.attempt.isSome.toNat

/-- How many retries may still take effect: the scheduled one, and those that may be scheduled. -/
def prospects (s : System W) : Nat := s.credit + s.loop.retry.isSome.toNat

/-- How often the loop may still do something during which collaborators post commands: try a bind,
let go of the attempt that comes of it, and open a subscription. -/
def funds (s : System W) : Nat :=
  2 * s.headroom + s.loop.attempt.isSome.toNat + s.loop.watching.isNone.toNat

/-- How many of the commands that are queued have the loop see to its connection. -/
def urgent (s : System W) : Nat := s.inbox.countP Command.isUrgent

/-- How many timers are armed that are not due yet. -/
def waiting (s : System W) : Nat := s.timers.countP fun x => !x.isDue s.clock

/-- After these commands the loop may count its binds anew: a connection is not wanted any more, or
only for a flush, or the bind in flight led to one, or a signal is ours. -/
def renews (s : System W) : Command → Bool
  | .setEnabled enabled => !enabled
  | .flushAndUnbind => true
  | .connected token _ => decide (s.loop.attempt = some token ∧ s.loop.state = .connecting)
  | .signal id x => decide (s.loop.watching = some id ∧ x.concerns s.extension.package = true)
  | _ => false

/-- The command is that the scheduled retry is due. -/
def retakes (s : System W) : Command → Bool
  | .retryElapsed generation => s.loop.retry == some generation
  | _ => false

/-- How many retries take effect in a run. -/
def retried (host : Host W) (s : System W) : List (Step W) → Nat
  | [] => 0
  | a :: as => ((s.command? a).any s.retakes).toNat + (s.step host a).retried host as

/-- What resets the counter is among what may. -/
theorem resets_eq_false {c : Command} (h : s.renews c = false) : s.resets c = false := by
  cases c with
  | signal id x =>
    simp only [renews, resets, decide_eq_false_iff_not] at h ⊢
    exact fun hreset => h ⟨hreset.1, hreset.2.1⟩
  | flushAndUnbind => cases h
  | _ => exact h

theorem credit_eq (hc : t.config = s.config) (hl : t.loop = s.loop) : t.credit = s.credit := by
  rw [credit, credit, headroom, headroom, hc, hl]

theorem funds_eq (hc : t.config = s.config) (hl : t.loop = s.loop) : t.funds = s.funds := by
  rw [funds, funds, headroom, headroom, hc, hl]

/-- To schedule a retry costs nothing yet. -/
theorem funds_scheduleRetry (s : System W) : s.scheduleRetry.funds = s.funds := by
  unfold scheduleRetry
  split <;> rfl

/-- To schedule a retry is to arm one timer at most. -/
theorem waiting_scheduleRetry_le (s : System W) : s.scheduleRetry.waiting ≤ s.waiting + 1 := by
  unfold scheduleRetry
  split
  · exact Nat.le_succ _
  · change (s.timers ++ [_]).countP _ ≤ s.waiting + 1
    rw [List.countP_append]
    exact Nat.add_le_add_left List.countP_le_length _

end System

/-- A notification center that refuses a subscription does not ask for a connection because of
it; it may ask for anything else, and report what it likes. -/
def Host.RefusesQuietly (host : Host W) : Prop :=
  ∀ w q e, (host.subscribe w q).answer = .error e →
    .ask (.setEnabled true) ∉ (host.subscribe w q).during

/-! ## Thrift -/

/-- The clock, the timers and the scheduled retry stand. -/
structure Standing (s t : System W) : Prop where
  config : t.config = s.config
  clock : t.clock = s.clock
  retry : t.loop.retry = s.loop.retry
  timers : t.timers = s.timers

namespace Standing

theorem refl (s : System W) : Standing s s := ⟨rfl, rfl, rfl, rfl⟩

theorem trans (h : Standing s t) (h' : Standing t u) : Standing s u where
  config := h'.config.trans h.config
  clock := h'.clock.trans h.clock
  retry := h'.retry.trans h.retry
  timers := h'.timers.trans h.timers

theorem of_untimed (h : Untimed s t) : Standing s t := ⟨h.config, h.clock, h.retry, h.timers⟩

end Standing

/-- All that was done was paid for; and if nothing was paid out, nothing urgent was posted, provided
that the notification center refuses quietly. -/
structure Thrifty (host : Host W) (s t : System W) : Prop where
  config : t.config = s.config
  clock : t.clock = s.clock
  prospects : t.prospects ≤ s.prospects
  credit : t.credit + t.waiting ≤ s.credit + s.waiting
  funds : t.funds ≤ s.funds
  frugal : host.RefusesQuietly → t.funds = s.funds → t.urgent = s.urgent ∧ t.timers = s.timers

namespace Thrifty

theorem refl (host : Host W) (s : System W) : Thrifty host s s :=
  ⟨rfl, rfl, Nat.le_refl _, Nat.le_refl _, Nat.le_refl _, fun _ _ => ⟨rfl, rfl⟩⟩

theorem trans (h : Thrifty host s t) (h' : Thrifty host t u) : Thrifty host s u where
  config := h'.config.trans h.config
  clock := h'.clock.trans h.clock
  prospects := Nat.le_trans h'.prospects h.prospects
  credit := Nat.le_trans h'.credit h.credit
  funds := Nat.le_trans h'.funds h.funds
  frugal hquiet heq := by
    have hle := h.funds
    have hle' := h'.funds
    obtain ⟨hi, ht⟩ := h.frugal hquiet (by omega)
    obtain ⟨hi', ht'⟩ := h'.frugal hquiet (by omega)
    exact ⟨hi'.trans hi, ht'.trans ht⟩

/-- A retry that stands costs nothing, if nothing else is spent. -/
theorem of_standing (h : Standing s t) (hcredit : t.credit ≤ s.credit) (hfunds : t.funds ≤ s.funds)
    (hurgent : host.RefusesQuietly → t.funds = s.funds → t.urgent = s.urgent) :
    Thrifty host s t where
  config := h.config
  clock := h.clock
  prospects := by
    rw [System.prospects, System.prospects, h.retry]
    omega
  credit := by
    rw [System.waiting, System.waiting, h.timers, h.clock]
    omega
  funds := hfunds
  frugal hquiet heq := ⟨hurgent hquiet heq, h.timers⟩

/-- Whatever was posted, it was paid for. -/
theorem of_paid (h : Standing s t) (hcredit : t.credit ≤ s.credit) (hfunds : t.funds < s.funds) :
    Thrifty host s t :=
  of_standing h hcredit (Nat.le_of_lt hfunds) fun _ heq => absurd heq (Nat.ne_of_lt hfunds)

/-- A retry may be scheduled after something was paid for it. -/
theorem of_scheduleRetry (h : Standing s t) (hcredit : t.credit < s.credit)
    (hfunds : t.funds < s.funds) : Thrifty host s t.scheduleRetry := by
  have hkept : t.scheduleRetry.config = t.config ∧ t.scheduleRetry.clock = t.clock ∧
      t.scheduleRetry.credit = t.credit := by
    unfold System.scheduleRetry
    split <;> exact ⟨rfl, rfl, rfl⟩
  obtain ⟨hconfig, hclock, hcredit'⟩ := hkept
  have hfunds' := System.funds_scheduleRetry t
  exact {
    config := hconfig.trans h.config
    clock := hclock.trans h.clock
    prospects := by
      rw [System.prospects, System.prospects, hcredit']
      have := Bool.toNat_le t.scheduleRetry.loop.retry.isSome
      omega
    credit := by
      have hwaiting := System.waiting_scheduleRetry_le t
      have ht : t.waiting = s.waiting := by rw [System.waiting, System.waiting, h.timers, h.clock]
      omega
    funds := hfunds' ▸ Nat.le_of_lt hfunds
    frugal := fun _ heq => absurd (hfunds' ▸ heq) (Nat.ne_of_lt hfunds) }

end Thrifty

namespace System

theorem thrifty_note (host : Host W) (s : System W) (n : Note) : Thrifty host s (s.note n) :=
  { Thrifty.refl host s with }

/-! ### Watching -/

/-- A command that is not urgent adds to no urgent ones. -/
theorem urgent_enqueue (s : System W) {c : Command} (hc : c.isUrgent = false) :
    (s.enqueue c).urgent = s.urgent := by
  rw [urgent, enqueue, List.countP_append, List.countP_singleton, hc]
  rfl

theorem urgent_submit (s : System W) {c : Command} (hc : c.isUrgent = false) :
    (s.submit c).urgent = s.urgent := by
  unfold submit
  split
  · exact urgent_enqueue s hc
  · rfl

/-- To ask for anything but a connection is not urgent. -/
theorem urgent_ask (s : System W) {r : Request} (hr : r ≠ .setEnabled true) :
    (s.ask r).urgent = s.urgent := by
  unfold ask
  split
  · rfl
  · cases r with
    | setEnabled enabled =>
      cases enabled with
      | true => exact absurd rfl hr
      | false => exact urgent_submit s rfl
    | flush | setListener => exact urgent_submit s rfl
    | settle | shutdown =>
      simp only
      split
      · exact urgent_enqueue s rfl
      · rfl

/-- Nor is anything else that collaborators do. -/
theorem urgent_perform (host : Host W) (s : System W) {d : Deed} (hd : d ≠ .ask (.setEnabled true)) :
    (s.perform host d).urgent = s.urgent := by
  cases d with
  | ask r => exact urgent_ask s fun hr => hd (congrArg _ hr)
  | report r =>
    have hr : r.command.isUrgent = false := by cases r <;> rfl
    simp only [perform, notify]
    split
    · rfl
    · split
      · exact urgent_enqueue s hr
      · rfl
  | lookUp =>
    simp only [perform, lookUp]
    split
    · rfl
    · split <;> rfl
  | clone =>
    simp only [perform]
    split <;> rfl
  | drop | drawToken => rfl

/-- While a collaborator is called that does not ask for a connection, nothing urgent is posted. -/
theorem urgent_consult (host : Host W) (s : System W) {α : Type} (c : Call)
    {r : Reaction Deed α W} (hr : .ask (.setEnabled true) ∉ r.during) :
    (s.consult host c r).urgent = s.urgent := by
  have h : ({ s.record (.call c) with world := r.world } : System W).urgent = s.urgent := rfl
  refine List.foldlRecOn (motive := fun t : System W => t.urgent = s.urgent) r.during
    (perform host) h fun t ht d hd => ?_
  exact (urgent_perform host t (ne_of_mem_of_not_mem hd hr)).trans ht

/-- Without a new subscription, nothing urgent is posted while the loop watches. -/
theorem urgent_watch (hquiet : host.RefusesQuietly)
    (hw : (s.watch host).loop.watching = s.loop.watching) : (s.watch host).urgent = s.urgent := by
  unfold watch at hw ⊢
  split
  · rfl
  · rename_i hnone
    simp only [hnone] at hw ⊢
    generalize hq : (⟨⟨s.nextSubscription⟩, s.extension.user⟩ : SubscriptionRequest) = q at hw ⊢
    have h := hquiet s.world q
    generalize host.subscribe s.world q = r at h hw ⊢
    split <;> rename_i ha
    · simp only [ha] at hw
      simp [← hw] at hnone
    · exact urgent_consult host { s with nextSubscription := s.nextSubscription + 1 } _ (h _ ha)

/-- To watch may cost a subscription, and brings no urgent command unless it does. -/
theorem thrifty_watch (host : Host W) (s : System W) : Thrifty host s (s.watch host) := by
  have hstanding := Standing.of_untimed (untimed_watch host s)
  have hurgent (hquiet : host.RefusesQuietly)
      (hw : (s.watch host).loop.watching = s.loop.watching) := urgent_watch hquiet hw
  have h := watched_watch host s
  generalize s.watch host = t at h hstanding hurgent ⊢
  cases h with
  | already => exact thrifty_note host s _
  | @opened q t hw h =>
    have hcredit : t.credit = s.credit := credit_eq h.config h.loop
    have hfunds : t.funds = s.funds := funds_eq h.config h.loop
    have htw : t.loop.watching = none := h.loop ▸ hw
    refine .of_paid hstanding (Nat.le_of_eq hcredit) ?_
    change 2 * t.headroom + t.loop.attempt.isSome.toNat < s.funds
    rw [← hfunds, funds, htw]
    exact Nat.lt_succ_self _
  | refused hw h =>
    have hcredit : t.credit = s.credit := credit_eq h.config h.loop
    have hfunds : t.funds = s.funds := funds_eq h.config h.loop
    exact .of_standing hstanding (Nat.le_of_eq hcredit) (Nat.le_of_eq hfunds)
      fun hquiet _ => hurgent hquiet (by rw [h.loop]; rfl)

theorem thrifty_resolve (host : Host W) (s : System W) :
    Thrifty host s (s.resolve host).1 := by
  have hasked (t : System W) (c : Call) (w : W) : Thrifty host t (t.lookedUp c w) :=
    { Thrifty.refl host t with }
  simp only [resolve]
  split
  · exact hasked _ _ _
  · exact (hasked _ _ _).trans (hasked _ _ _)

/-- An extension that does not resolve costs a subscription at most. -/
theorem thrifty_checkAvailable (host : Host W) (s : System W) :
    Thrifty host s (s.checkAvailable host).1 := by
  have h := thrifty_resolve host s
  unfold checkAvailable
  split <;> rename_i heq <;> rw [heq] at h
  · exact h
  · exact (h.trans (thrifty_note host _ _)).trans (thrifty_watch host _)

theorem thrifty_giveUp (host : Host W) (s : System W) : Thrifty host s (s.giveUp host) := by
  obtain ⟨t, ht, heq⟩ := exists_giveUp_eq host s
  have h : Thrifty host s t := by
    rcases ht with rfl | rfl
    · exact .refl host _
    · exact thrifty_note host s _
  have h' : Thrifty host s { t with loop.state := .givingUp } := { h with }
  rw [heq]
  exact h'.trans (thrifty_watch host _)

/-! ### Binds -/

/-- A bind that is tried is paid for: by an attempt that may die, or by a failure, of which a retry
may come. -/
theorem thrifty_tryBind (host : Host W) (hmax : s.loop.retryCount < s.config.maxRetries)
    (hb : s.loop.binding = none) : Thrifty host s (s.tryBind host) := by
  obtain ⟨hcount, -⟩ := Counted.toNat_succ hmax
  have hlt := UInt32.lt_iff_toNat_lt.1 hmax
  -- whatever the answer, the counter went up by one, and there is room for one try less
  have hasked {a : Except Error BindHandle} {t : System W}
      (ht : Touched (s.trying.record (.call (.bind s.request a))) t) : Standing s t ∧
      t.loop = { s.loop with retryCount := s.loop.retryCount + 1 } ∧
      t.headroom + 1 = s.headroom := by
    have hstanding : Standing s t :=
      Standing.trans (t := s.trying) { Standing.refl s with }
        { Standing.of_untimed ht.untimed with }
    have hloop : t.loop = { s.loop with retryCount := s.loop.retryCount + 1 } := ht.offstage.loop
    refine ⟨hstanding, hloop, ?_⟩
    rw [headroom, headroom, hstanding.config, hloop, hcount]
    omega
  obtain ⟨t, ⟨b, ht, heq⟩ | ⟨e, ht, heq⟩⟩ := exists_tryBind_eq host s
  · obtain ⟨hstanding, hloop, hheadroom⟩ := hasked ht
    have htb : t.loop.binding = none := by
      rw [hloop]
      exact hb
    have hwatching : t.loop.watching = s.loop.watching := by rw [hloop]
    rw [heq, keepBinding_eq host htb]
    refine .of_paid { hstanding with } ?_ ?_
    · change t.headroom + 1 ≤ s.credit
      exact hheadroom ▸ Nat.le_add_right _ _
    · change 2 * t.headroom + 1 + t.loop.watching.isNone.toNat < s.funds
      rw [funds, hwatching]
      omega
  · obtain ⟨hstanding, hloop, hheadroom⟩ := hasked ht
    have hattempt : t.loop.attempt = s.loop.attempt := by rw [hloop]
    have hwatching : t.loop.watching = s.loop.watching := by rw [hloop]
    rw [heq]
    refine .of_scheduleRetry { hstanding with } ?_ ?_
    · change t.headroom + t.loop.attempt.isSome.toNat < s.credit
      rw [credit, hattempt]
      omega
    · change 2 * t.headroom + t.loop.attempt.isSome.toNat + t.loop.watching.isNone.toNat < s.funds
      rw [funds, hattempt, hwatching]
      omega

/-- An attempt costs a bind, or leads to watching. -/
theorem thrifty_attemptBind (host : Host W) (hb : s.loop.binding = none) :
    Thrifty host s (s.attemptBind host) := by
  have hc := thrifty_checkAvailable host s
  unfold attemptBind
  split
  · exact thrifty_giveUp host s
  · rename_i hmax
    obtain ⟨t, ht, h | h⟩ := exists_checkAvailable_eq host s <;> rw [h] at hc <;> simp only [h]
    · refine hc.trans (thrifty_tryBind host ?_ ?_)
      · rw [ht.loop, ht.config]
        exact UInt32.not_le.1 hmax
      · rw [ht.loop]
        exact hb
    · exact { hc with }

theorem thrifty_bind (host : Host W) (hs : Tidy s) : Thrifty host s (s.bind host) := by
  unfold bind
  split <;> rename_i hst
  · split
    · exact absurd hst (hs.unflushed ‹_›)
    · exact .refl host s
  · exact thrifty_note host s _
  · exact thrifty_attemptBind host (hs.unburdened (by rw [hst]; rfl))
  · exact thrifty_attemptBind host (hs.unburdened (by rw [hst]; rfl))

/-! ### Deaths and retries -/

/-- To let go of an attempt is paid for by the attempt. -/
theorem paid_release (host : Host W) {token : BindToken} (ha : s.loop.attempt = some token)
    (cause : DeathCause) :
    Standing s ((s.note (.sessionDied token cause)).release host) ∧
      ((s.note (.sessionDied token cause)).release host).credit < s.credit ∧
      ((s.note (.sessionDied token cause)).release host).funds < s.funds := by
  have hstanding : Standing s ((s.note (.sessionDied token cause)).release host) :=
    { Standing.of_untimed (untimed_release host (s.note (.sessionDied token cause))) with }
  have hloop := loop_release host (s.note (.sessionDied token cause))
  generalize (s.note (.sessionDied token cause)).release host = t at hstanding hloop ⊢
  refine ⟨hstanding, ?_⟩
  rw [credit, credit, funds, funds, headroom, headroom, hstanding.config, hloop, ha]
  exact ⟨Nat.lt_succ_self _, Nat.add_lt_add_right (Nat.lt_succ_self _) _⟩

/-- The attempt that dies pays for the retry that is scheduled then, and for all that is posted. -/
theorem paid_sessionDied (host : Host W) {token : BindToken} (ha : s.loop.attempt = some token)
    (hst : s.loop.state = .connecting ∨ s.loop.state = .connected) (cause : DeathCause) :
    Thrifty host s (s.sessionDied host token cause) ∧
      (s.sessionDied host token cause).funds < s.funds := by
  rw [sessionDied, if_pos ⟨ha, hst⟩]
  obtain ⟨hstanding, hcredit, hfunds⟩ := paid_release host ha cause
  generalize (s.note (.sessionDied token cause)).release host = t at hstanding hcredit hfunds ⊢
  have hreleased : Thrifty host s t := .of_paid hstanding (Nat.le_of_lt hcredit) hfunds
  have hc := thrifty_checkAvailable host t
  have huntimed := (untimed_checkAvailable host t).1
  simp only
  split
  · obtain ⟨u, hu, heq | heq⟩ := exists_checkAvailable_eq host t <;>
      rw [heq] at hc huntimed <;> simp only [heq]
    · have hcredit' := credit_eq hu.config hu.loop
      have hfunds' := funds_eq hu.config hu.loop
      exact ⟨.of_scheduleRetry (hstanding.trans (.of_untimed huntimed)) (hcredit' ▸ hcredit)
        (hfunds' ▸ hfunds), by rwa [funds_scheduleRetry, hfunds']⟩
    · exact ⟨hreleased.trans hc, Nat.lt_of_le_of_lt hc.funds hfunds⟩
  · exact ⟨hreleased, hfunds⟩

/-- The death of any other session is ignored. -/
theorem thrifty_sessionDied (host : Host W) (s : System W) (token : BindToken)
    (cause : DeathCause) : Thrifty host s (s.sessionDied host token cause) := by
  by_cases h : s.loop.attempt = some token ∧
      (s.loop.state = .connecting ∨ s.loop.state = .connected)
  · exact (paid_sessionDied host h.1 h.2 cause).1
  · rw [sessionDied, if_neg h]
    exact thrifty_note host s _

/-- The scheduled retry is used up, whatever comes of it. -/
theorem thrifty_retryElapsed (host : Host W) (hs : Tidy s) {g : Nat}
    (hr : s.loop.retry = some g) :
    Thrifty host { s with loop.retry := none } (s.retryElapsed host g) := by
  rw [retryElapsed, if_pos hr]
  simp only
  have hnote (n : Note) :
      Thrifty host { s with loop.retry := none } ({ s with loop.retry := none }.note n) :=
    thrifty_note host _ n
  split
  · have htidy : Tidy ({ s with loop.retry := none }.note .retrying) := { hs with }
    exact (hnote _).trans (thrifty_bind host htidy)
  · exact hnote _

/-- To use up a retry is thrifty. -/
theorem thrifty_used (host : Host W) {g : Nat} (hr : s.loop.retry = some g) :
    Thrifty host s { s with loop.retry := none } :=
  { Thrifty.refl host s with
    prospects := by
      rw [prospects, prospects, hr]
      exact Nat.le_succ _ }

/-! ### Commands -/

theorem thrifty_publish (host : Host W) (s : System W) : Thrifty host s s.publish := by
  unfold publish
  split
  · exact .refl host s
  · exact { Thrifty.refl host s with }

/-- Unless the loop may count its binds anew, a command only costs what can be afforded. -/
theorem thrifty_obey (host : Host W) (hs : Tidy s) {c : Command} (hc : c ≠ .shutdown)
    (hrenews : s.renews c = false) : Thrifty host s (s.obey host c) := by
  cases c with
  | setEnabled enabled =>
    obtain rfl : enabled = true := by simpa [renews] using hrenews
    have htidy : Tidy { s with loop.desired := true } := { hs with }
    have h : Thrifty host s { s with loop.desired := true } := { Thrifty.refl host s with }
    exact h.trans (thrifty_bind host htidy)
  | flushAndUnbind => cases hrenews
  | connected token transport =>
    rw [obey, connected, if_neg (of_decide_eq_false hrenews)]
    exact thrifty_note host s _
  | sessionDied token cause => exact thrifty_sessionDied host s token cause
  | deathCheck failed =>
    cases failed with
    | none => exact thrifty_note host s _
    | some token => exact thrifty_sessionDied host s token _
  | retryElapsed g =>
    by_cases hr : s.loop.retry = some g
    · exact (thrifty_used host hr).trans (thrifty_retryElapsed host hs hr)
    · rw [obey, retryElapsed, if_neg hr]
      exact thrifty_note host s _
  | signal id x =>
    simp only [obey, signalled]
    split <;> rename_i hx
    · exact thrifty_note host s _
    · exact thrifty_note host s _
    · exact absurd (eq_of_classify_eq_relevant hx) (of_decide_eq_false hrenews)
  | setChangeListener l => exact { Thrifty.refl host s with }
  | barrier ticket => exact { Thrifty.refl host s with }
  | shutdown => exact absurd rfl hc

/-- A command that is not urgent has nothing posted, unless the attempt dies. -/
theorem idle_obey (host : Host W) {c : Command} (hc : c ≠ .shutdown) (hidle : c.isUrgent = false)
    (hrenews : s.renews c = false) :
    (s.obey host c).funds < s.funds ∨ (s.obey host c).inbox = s.inbox := by
  have hdied (token : BindToken) (cause : DeathCause) :
      (s.sessionDied host token cause).funds < s.funds ∨
        (s.sessionDied host token cause).inbox = s.inbox := by
    by_cases h : s.loop.attempt = some token ∧
        (s.loop.state = .connecting ∨ s.loop.state = .connected)
    · exact .inl (paid_sessionDied host h.1 h.2 cause).2
    · rw [sessionDied, if_neg h]
      exact .inr rfl
  cases c with
  | setEnabled enabled =>
    have henabled : enabled = true := by simpa [renews] using hrenews
    cases henabled.symm.trans hidle
  | flushAndUnbind => cases hrenews
  | connected token transport =>
    rw [obey, connected, if_neg (of_decide_eq_false hrenews)]
    exact .inr rfl
  | sessionDied token cause => exact hdied token cause
  | deathCheck failed =>
    cases failed with
    | none => exact .inr rfl
    | some token => exact hdied token _
  | retryElapsed g => cases hidle
  | signal id x =>
    simp only [obey, signalled]
    split <;> rename_i hx
    · exact .inr rfl
    · exact .inr rfl
    · exact absurd (eq_of_classify_eq_relevant hx) (of_decide_eq_false hrenews)
  | setChangeListener | barrier => exact .inr rfl
  | shutdown => exact absurd rfl hc

/-- A command that does not renew the funds is thrifty. -/
theorem thrifty_process (host : Host W) (hs : Tidy s) {c : Command} (hc : c ≠ .shutdown)
    (hrenews : s.renews c = false) : Thrifty host s (s.process host c) := by
  have htidy : Tidy (s.note (.received c)) := { hs with }
  have hrenews : (s.note (.received c)).renews c = false := by
    cases c <;> exact hrenews
  have hobey := (thrifty_note host s _).trans (thrifty_obey host htidy hc hrenews)
  rw [process, if_neg hc]
  exact hobey.trans (thrifty_publish host _)

/-- A command that is not urgent spends something, or posts nothing. -/
theorem idle_process (host : Host W) {c : Command} (hc : c ≠ .shutdown) (hidle : c.isUrgent = false)
    (hrenews : s.renews c = false) :
    (s.process host c).funds < s.funds ∨ (s.process host c).inbox = s.inbox := by
  have hrenews : (s.note (.received c)).renews c = false := by
    cases c <;> exact hrenews
  have hpublish (t : System W) : t.publish.funds = t.funds ∧ t.publish.inbox = t.inbox := by
    unfold publish
    split <;> exact ⟨rfl, rfl⟩
  rw [process, if_neg hc, (hpublish _).1, (hpublish _).2]
  exact idle_obey host hc hidle hrenews

/-- A retry that takes effect is one of those that may. -/
theorem prospects_process (host : Host W) (hs : Tidy s) {c : Command} (hc : c ≠ .shutdown)
    (hrenews : s.renews c = false) :
    (s.process host c).prospects + (s.retakes c).toNat ≤ s.prospects := by
  cases htakes : s.retakes c with
  | false => exact (thrifty_process host hs hc hrenews).prospects
  | true =>
    cases c with
    | retryElapsed g =>
      have hr : s.loop.retry = some g := by simpa [retakes] using htakes
      have htidy : Tidy (s.note (.received (.retryElapsed g))) := { hs with }
      have hobey := (thrifty_retryElapsed host htidy hr).trans (thrifty_publish host _)
      have hbefore : s.prospects = s.credit + 1 := by
        rw [prospects, hr]
        rfl
      rw [hbefore]
      exact Nat.succ_le_succ hobey.prospects
    | _ => cases htakes

end System

/-! ## Steps and runs -/

/-- No step of the run processes a command after which the loop may count its binds anew. -/
def Unrenewed (host : Host W) (s : System W) : List (Step W) → Prop
  | [] => True
  | a :: as => (s.command? a).any s.renews = false ∧ Unrenewed host (s.step host a) as

namespace System

/-- A loop that is at rest schedules nothing any more. -/
theorem prospects_le_of_atRest (hc : t.config = s.config) (hl : t.loop = s.loop.atRest) :
    t.prospects ≤ s.prospects := by
  rw [prospects, prospects, credit, credit, headroom, headroom, hc, hl]
  exact Nat.le_trans (Nat.le_add_right _ _) (Nat.le_add_right _ _)

/-- A retry that is taken up uses up a prospect. -/
theorem prospects_step (hs : Reachable host s) {a : Step W}
    (hrenews : (s.command? a).any s.renews = false) :
    (s.step host a).prospects + ((s.command? a).any s.retakes).toNat ≤ s.prospects := by
  have hconfig : (s.step host a).config = s.config := config_step hs.poised.toTidy a
  have h := turned_step host s a
  generalize s.command? a = c?, s.step host a = t at h hrenews hconfig ⊢
  cases h with
  | offstage h => rw [prospects, prospects, credit_eq hconfig h.loop, h.loop]; exact Nat.le_refl _
  | started => exact Nat.le_refl _
  | @processed c rest _ _ hc =>
    have htidy : Tidy { s with inbox := rest } := { hs.poised.toTidy with }
    have hrenews : System.renews { s with inbox := rest } c = false := by
      cases c <;> exact hrenews
    have htakes : System.retakes { s with inbox := rest } c = s.retakes c := by
      cases c <;> rfl
    have h := prospects_process host htidy hc hrenews
    rwa [htakes] at h
  | @shutDown rest => exact prospects_le_of_atRest hconfig (loop_shutDown host _)
  | closed => exact prospects_le_of_atRest hconfig (loop_close host _)

/-- The retries that take effect in a run are paid for by what was there at its start. -/
theorem retried_le (hs : Reachable host s) {as : List (Step W)} (has : Unrenewed host s as) :
    s.retried host as + (s.run host as).prospects ≤ s.prospects := by
  induction as generalizing s with
  | nil => exact Nat.le_of_eq (Nat.zero_add _)
  | cons a as ih =>
    have hstep := prospects_step hs has.1
    have hrun := ih (hs.step a) has.2
    rw [retried, run_cons]
    omega

/-- There are no more prospects than binds that are left, and two. -/
theorem prospects_le (s : System W) : s.prospects ≤ s.headroom + 2 := by
  have hattempt := Bool.toNat_le s.loop.attempt.isSome
  have hretry := Bool.toNat_le s.loop.retry.isSome
  rw [prospects, credit]
  omega

/-- What is written down in such a run resets the counter nowhere. -/
theorem exists_run_journal_eq (hs : Reachable host s) {as : List (Step W)}
    (has : Unrenewed host s as) :
    ∃ new, (s.run host as).journal = new ++ s.journal ∧ new.any (·.fact.isReset) = false := by
  induction as generalizing s with
  | nil => exact ⟨[], rfl, rfl⟩
  | cons a as ih =>
    obtain ⟨later, hlater, hrun⟩ := ih (hs.step a) has.2
    have hbooks : Books _ s (s.step host a) := books_step hs.poised.toTidy a
    obtain ⟨new, hnew, hstep⟩ := hbooks.exists_journal_eq
    have hresets : (s.command? a).any s.resets = false := by
      have hrenews := has.1
      cases hc : s.command? a with
      | none => rfl
      | some c =>
        rw [hc] at hrenews
        exact resets_eq_false hrenews
    refine ⟨later ++ new, ?_, ?_⟩
    · rw [run_cons, hlater, hnew, List.append_assoc]
    · rw [List.any_append, hrun, hstep, hresets, Bool.or_false]

end System

/-- Without a reset all binds are attempts. -/
theorem Journal.attempts_append {new j : Journal} (h : new.any (·.fact.isReset) = false) :
    Journal.attempts (new ++ j) = new.binds + j.attempts := by
  have hall : ∀ r ∈ new, (!r.fact.isReset) = true := by simpa using h
  rw [attempts, List.takeWhile_append_of_pos hall, List.countP_append]
  rfl

/-- The binds that are tried in such a run are among those that were allowed at its start. -/
theorem Reachable.binds_le (hs : Reachable host s) {as : List (Step W)}
    (has : Unrenewed host s as) :
    (s.run host as).journal.binds ≤ s.journal.binds + s.headroom := by
  obtain ⟨new, hj, hnew⟩ := System.exists_run_journal_eq hs has
  have hlimit := (hs.run as).counted.limit _ List.suffix_rfl
  rw [hj, Journal.attempts_append hnew, ← hs.counted.count, hs.config_run as] at hlimit
  have hbinds : Journal.binds (new ++ s.journal) = new.binds + s.journal.binds :=
    List.countP_append
  rw [hj, hbinds, System.headroom]
  omega

end Supervision
