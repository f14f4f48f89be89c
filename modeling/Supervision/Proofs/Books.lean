import Supervision.Proofs.Pursuit

/-!
# The loop's books

Three fields of the loop account for what it asked of its collaborators: the binding for the
handles that the binder gave and was given back, the retry counter for the binds that were
tried, and the open subscription for those that were opened and closed. An `Entry` is one such
request, written down, with what it does to the field; or a reset of the counter; or a status
that is published. Its
hypotheses say when the loop makes it: a bind is only tried with no binding at hand and with
the counter below its limit, what is given back is the binding at hand, and so on.

`Books r s t` says that all that happened from `s` to `t` were entries and what leaves the books
alone, and `r` whether the counter was reset. Each command only makes entries, and resets the
counter exactly if `System.resets` says so (`System.books_step`). So what holds at the start and
is kept by each entry holds of all reachable states (`Reachable.books_induct`).
-/

namespace Supervision

variable {W : Type}

/-- The binder was asked for a bind. -/
def Fact.isBind : Fact → Bool
  | .call (.bind ..) => true
  | _ => false

theorem Fact.isBind_eq_false {f : Fact} (h : f.isEntry = false) : f.isBind = false := by
  unfold isBind
  split
  · cases h
  · rfl

/-- Nothing was entered into the books, and what they account for stands. -/
structure Unbooked (s t : System W) : Prop where
  config : t.config = s.config
  retryCount : t.loop.retryCount = s.loop.retryCount
  binding : t.loop.binding = s.loop.binding
  watching : t.loop.watching = s.loop.watching
  journal : s.journal.GrowsBy (·.isEntry = false) t.journal

/-- An entry of the books; the flag says whether it resets the retry counter. -/
inductive Entry (s : System W) : Bool → System W → Prop
  | reset {n : Note} (hn : (Fact.note n).isReset = true) :
    Entry s true { s.note n with loop.retryCount := 0 }
  | bound {q : BindRequest} {b : BindHandle} (hmax : s.loop.retryCount < s.config.maxRetries)
      (hb : s.loop.binding = none) :
      Entry s false { s.record (.call (.bind q (.ok b))) with
        loop.retryCount := s.loop.retryCount + 1, loop.binding := some b }
  | failed {q : BindRequest} {e : Error} (hmax : s.loop.retryCount < s.config.maxRetries)
      (hb : s.loop.binding = none) :
      Entry s false { s.record (.call (.bind q (.error e))) with
        loop.retryCount := s.loop.retryCount + 1 }
  | unbound {b : BindHandle} (hb : s.loop.binding = some b) :
    Entry s false { s.record (.call (.unbind b)) with loop.binding := none }
  | subscribed {q : SubscriptionRequest} (hw : s.loop.watching = none) :
    Entry s false { s.record (.call (.subscribe q (.ok ()))) with loop.watching := some q.id }
  | refused {q : SubscriptionRequest} {e : Error} (hw : s.loop.watching = none) :
    Entry s false (s.record (.call (.subscribe q (.error e))))
  | unsubscribed {id : Subscription} (hw : s.loop.watching = some id) :
    Entry s false { s.record (.call (.unsubscribe id)) with loop.watching := none }
  | published {x : Status} : Entry s false { s.record (.published x) with status := x }

/-- Entries, one after another; the flag says whether one of them resets the retry counter. -/
inductive Books : Bool → System W → System W → Prop
  | unbooked {s t : System W} (h : Unbooked s t) : Books false s t
  | snoc {r r' : Bool} {s t u v : System W} (h : Books r s t) (he : Entry t r' u)
      (hu : Unbooked u v) : Books (r || r') s v

namespace Unbooked

variable {s t u : System W}

theorem refl (s : System W) : Unbooked s s := ⟨rfl, rfl, rfl, rfl, .refl _⟩

theorem trans (h : Unbooked s t) (h' : Unbooked t u) : Unbooked s u where
  config := h'.config.trans h.config
  retryCount := h'.retryCount.trans h.retryCount
  binding := h'.binding.trans h.binding
  watching := h'.watching.trans h.watching
  journal := h.journal.trans h'.journal

/-- Callers and collaborators make no entries. -/
theorem of_offstage (h : Offstage s t) : Unbooked s t where
  config := h.config
  retryCount := by rw [h.loop]
  binding := by rw [h.loop]
  watching := by rw [h.loop]
  journal := h.journal

/-- Only notes that reset the counter are entries. -/
theorem note {n : Note} (hn : (Fact.note n).isEntry = false) : Unbooked s (s.note n) :=
  .of_offstage (System.offstage_note hn)

end Unbooked

namespace Books

variable {r r' : Bool} {s t u : System W}

theorem refl (s : System W) : Books false s s := .unbooked (.refl s)

theorem entry (h : Entry s r t) : Books r s t := .snoc (.refl s) h (.refl t)

theorem trans (h : Books r s t) (h' : Books r' t u) : Books (r || r') s u := by
  induction h' with
  | unbooked h' =>
    rw [Bool.or_false]
    cases h with
    | unbooked h => exact .unbooked (h.trans h')
    | snoc h he hu => exact .snoc h he (hu.trans h')
  | snoc _ he hu ih =>
    rw [← Bool.or_assoc]
    exact (ih h).snoc he hu

/-- What each entry keeps is kept. -/
theorem induct {motive : System W → Prop} (h : Books r s t) (hs : motive s)
    (unbooked : ∀ s t, Unbooked s t → motive s → motive t)
    (entry : ∀ s r t, Entry s r t → motive s → motive t) : motive t := by
  induction h with
  | unbooked h => exact unbooked _ _ h hs
  | snoc _ he hu ih => exact unbooked _ _ hu (entry _ _ _ he (ih hs))

end Books

/-- Entries leave the configuration as it is. -/
theorem Books.config_eq {r : Bool} {s t : System W} (h : Books r s t) : t.config = s.config :=
  h.induct (motive := fun t => t.config = s.config) rfl (fun _ _ h hs => h.config.trans hs)
    fun _ _ _ h hs => by cases h <;> exact hs

/-- An entry is one fact, which is a reset exactly if the flag says so. -/
theorem Entry.exists_journal_eq {r : Bool} {s t : System W} (h : Entry s r t) :
    ∃ x : Record, t.journal = x :: s.journal ∧ x.fact.isReset = r := by
  cases h with
  | reset hn => exact ⟨_, rfl, hn⟩
  | _ => exact ⟨_, rfl, rfl⟩

/-- The flag tells whether a reset was written into the journal. -/
theorem Books.exists_journal_eq {r : Bool} {s t : System W} (h : Books r s t) :
    ∃ new, t.journal = new ++ s.journal ∧ new.any (·.fact.isReset) = r := by
  have unbooked : ∀ {s t : System W}, Unbooked s t →
      ∃ new, t.journal = new ++ s.journal ∧ new.any (·.fact.isReset) = false := fun h => by
    obtain ⟨new, hj, hnew⟩ := h.journal
    refine ⟨new, hj, List.any_eq_false.2 fun x hx hr => ?_⟩
    exact absurd (Fact.isEntry_of_isReset hr) (by simp [hnew x hx])
  induction h with
  | unbooked h => exact unbooked h
  | snoc _ he hu ih =>
    obtain ⟨new, hj, rfl⟩ := ih
    obtain ⟨x, hx, rfl⟩ := he.exists_journal_eq
    obtain ⟨new', hj', hnew'⟩ := unbooked hu
    refine ⟨new' ++ x :: new, by simp [hj', hx, hj], ?_⟩
    rw [List.any_append, hnew', List.any_cons, Bool.false_or, Bool.or_comm]

/-! ## Commands -/

namespace System

variable {host : Host W} {s : System W}

theorem unbooked_scheduleRetry (s : System W) : Unbooked s s.scheduleRetry := by
  unfold scheduleRetry
  split
  · exact .note rfl
  · exact { Unbooked.refl s with journal := .cons rfl }

theorem unbooked_cancelRetry (s : System W) : Unbooked s s.cancelRetry := by
  unfold cancelRetry
  split
  · exact .refl s
  · exact { Unbooked.refl s with }

theorem books_publish (s : System W) : Books false s s.publish := by
  unfold publish
  split
  · exact .refl s
  · exact .entry .published

/-- To watch is one entry, unless a subscription is open. -/
theorem books_watch (host : Host W) (s : System W) : Books false s (s.watch host) := by
  have h := watched_watch host s
  generalize s.watch host = t at h ⊢
  cases h with
  | already => exact .unbooked (.note rfl)
  | opened hw h =>
    have h := Unbooked.of_offstage h
    exact .snoc (.refl s) (.subscribed hw) { h with watching := rfl }
  | refused hw h => exact .snoc (.refl s) (.refused hw) (.of_offstage h)

/-- To stop watching closes the subscription that is open. -/
theorem books_unwatch (host : Host W) (s : System W) : Books false s (s.unwatch host) := by
  unfold unwatch
  split
  · exact .refl s
  · rename_i id hw
    have hnote : Books false s (s.note (.watchStopped id)) := .unbooked (.note rfl)
    have h := offstage_consult host ({ s with loop.watching := none }.note (.watchStopped id))
      (.unsubscribe id) (host.unsubscribe s.world id)
    exact hnote.snoc (.unsubscribed hw) { Unbooked.of_offstage h with }

/-- An extension that does not resolve is watched for. -/
theorem books_checkAvailable (host : Host W) (s : System W) :
    Books false s (s.checkAvailable host).1 := by
  obtain ⟨t, ht, h | h⟩ := exists_checkAvailable_eq host s
  · rw [h]
    exact .unbooked (.of_offstage ht)
  · rw [h]
    exact (Books.unbooked (.of_offstage ht)).trans (books_watch host t)

/-- To release gives the binding at hand back. -/
theorem books_release (host : Host W) (s : System W) : Books false s (s.release host) := by
  simp only [release]
  split
  · exact .unbooked { Unbooked.refl s with }
  · rename_i b hb
    have h := offstage_consult host
      { s.vacate with loop.session := none, loop.attempt := none, loop.binding := none }
      (.unbind b) (host.unbind s.world b)
    exact .snoc (.refl s) (.unbound hb) { Unbooked.of_offstage h with }

/-- To disconnect resets the counter. -/
theorem books_disconnect (host : Host W) (s : System W) : Books true s (s.disconnect host) := by
  have h := Books.entry (s := s) (.reset (n := .unbinding) rfl)
  exact (h.trans (.unbooked (unbooked_cancelRetry _))).trans (books_release host _)

theorem books_finishFlush (host : Host W) (s : System W) : Books true s (s.finishFlush host) := by
  have h : Unbooked s { s with loop.flushing := false, loop.desired := false } :=
    { Unbooked.refl s with }
  exact (Books.unbooked h).trans (books_disconnect host _)

/-- So does the end of a connection that a flush waited for. -/
theorem books_endFlush (host : Host W) (s : System W) :
    Books s.loop.flushing s (s.endFlush host) := by
  unfold endFlush
  split
  · rename_i hf
    rw [hf]
    exact books_finishFlush host s
  · rename_i hf
    rw [Bool.eq_false_iff.2 hf]
    exact .refl s

theorem books_giveUp (host : Host W) (s : System W) : Books false s (s.giveUp host) := by
  obtain ⟨t, ht, heq⟩ := exists_giveUp_eq host s
  have h : Unbooked s t := by
    rcases ht with rfl | rfl
    · exact .refl _
    · exact .note rfl
  have h' : Unbooked s { t with loop.state := .givingUp } := { h with }
  rw [heq]
  exact (Books.unbooked h').trans (books_watch host _)

/-- A bind is tried below the limit and with no binding at hand, and it is counted. -/
theorem books_tryBind (host : Host W) (hmax : s.loop.retryCount < s.config.maxRetries)
    (hb : s.loop.binding = none) : Books false s (s.tryBind host) := by
  have hnote : Books false s (s.note (.binding s.request.token (s.loop.retryCount + 1))) :=
    .unbooked (.note rfl)
  have h := tried_tryBind host hb
  generalize s.tryBind host = t at h ⊢
  cases h with
  | accepted h =>
    have h := Unbooked.of_offstage h
    exact hnote.snoc (.bound hmax hb) { h with binding := rfl }
  | @failed e t h =>
    have h := Unbooked.of_offstage h
    have ht : Unbooked (s.asked (.error e)) { t with loop.state := .unbound } := { h with }
    exact hnote.snoc (.failed hmax hb) (ht.trans (unbooked_scheduleRetry _))

/-- At the limit no bind is tried. -/
theorem books_attemptBind (host : Host W) (hb : s.loop.binding = none) :
    Books false s (s.attemptBind host) := by
  unfold attemptBind
  split
  · exact books_giveUp host s
  · rename_i hmax
    obtain ⟨t, ht, h | h⟩ := exists_checkAvailable_eq host s <;> simp only [h]
    · refine (Books.unbooked (.of_offstage ht)).trans (books_tryBind host ?_ ?_)
      · rw [ht.loop, ht.config]
        exact UInt32.not_le.1 hmax
      · rw [ht.loop]
        exact hb
    · have hw := (Books.unbooked (.of_offstage ht)).trans (books_watch host t)
      exact hw.trans (.unbooked { Unbooked.refl (t.watch host) with })

/-- With a connection already there, a flush ends; nothing else that `bind` does resets the
counter. -/
theorem books_bind (host : Host W) (hb : s.loop.state.isIdle → s.loop.binding = none) :
    Books (s.loop.state == .connected && s.loop.flushing) s (s.bind host) := by
  unfold bind
  split <;> rename_i hst <;> rw [hst]
  · split
    · rename_i hf
      rw [hf]
      exact (Books.unbooked (.note rfl)).trans (books_finishFlush host _)
    · rename_i hf
      rw [Bool.eq_false_iff.2 hf]
      exact .refl s
  · exact .unbooked (.note rfl)
  · exact books_attemptBind host (hb (by rw [hst]; rfl))
  · exact books_attemptBind host (hb (by rw [hst]; rfl))

/-- The counter is reset if no connection is wanted, or if a flush has nothing to wait for. -/
theorem books_setEnabled (host : Host W) (hb : s.loop.state.isIdle → s.loop.binding = none)
    (enabled : Bool) :
    Books (!enabled || s.loop.state == .connected && s.loop.flushing) s
      (s.setEnabled host enabled) := by
  unfold setEnabled
  cases enabled with
  | true =>
    have h : Unbooked s { s with loop.desired := true } := { Unbooked.refl s with }
    exact (Books.unbooked h).trans (books_bind (s := { s with loop.desired := true }) host hb)
  | false =>
    have h : Unbooked s { s with loop.desired := false, loop.flushing := false } :=
      { Unbooked.refl s with }
    exact (Books.unbooked h).trans (books_disconnect host _)

/-- The death of a session resets nothing. -/
theorem books_sessionDied (host : Host W) (s : System W) (token : BindToken)
    (cause : DeathCause) : Books false s (s.sessionDied host token cause) := by
  unfold sessionDied
  split
  · have h : Books false s ((s.note (.sessionDied token cause)).release host) :=
      (Books.unbooked (.note rfl)).trans (books_release host _)
    simp only
    generalize (s.note (.sessionDied token cause)).release host = t at h ⊢
    have hc := h.trans (books_checkAvailable host t)
    split
    · split <;> rename_i heq <;> rw [heq] at hc
      · exact hc.trans (.unbooked (unbooked_scheduleRetry _))
      · exact hc
    · exact h
  · exact .unbooked (.note rfl)

/-- The connection that the loop waits for resets the counter; any other is ignored. -/
theorem books_connected (host : Host W) (s : System W) (token : BindToken)
    (transport : TransportId) :
    Books (decide (s.loop.attempt = some token ∧ s.loop.state = .connecting)) s
      (s.connected host token transport) := by
  by_cases h : s.loop.attempt = some token ∧ s.loop.state = .connecting
  · obtain ⟨dropped, failed, t, ht, heq⟩ := exists_connected_eq host transport h.1 h.2
    have hjoined : Books true s t :=
      .snoc (.refl s) (.reset (n := .connected token) rfl) { Unbooked.of_offstage ht with }
    have hlost : Books false t
        (if failed then t.sessionDied host token .dispatchFailed else t) := by
      cases failed with
      | true => exact books_sessionDied host t token _
      | false => exact .refl t
    rw [decide_eq_true h, heq]
    exact (hjoined.trans hlost).trans (books_endFlush host _)
  · rw [decide_eq_false h, connected, if_neg h]
    exact .unbooked (.note rfl)

end System

/-- With a connection already there, no flush is left to end. -/
theorem Tidy.endsNoFlush {s : System W} (hs : Tidy s) :
    (s.loop.state == .connected && s.loop.flushing) = false := by
  rw [Bool.and_eq_false_imp]
  intro hst
  refine Bool.eq_false_iff.2 fun hf => hs.unflushed hf ?_
  simpa using hst

namespace System

variable {host : Host W} {s : System W}

/-- A retry is due only while no flush has a connection, so it resets nothing. -/
theorem books_retryElapsed (host : Host W) (hs : Tidy s) (generation : Nat) :
    Books false s (s.retryElapsed host generation) := by
  unfold retryElapsed
  split
  · have h : ∀ n : Note, (Fact.note n).isEntry = false →
        Books false s ({ s with loop.retry := none }.note n) := fun n hn =>
      .unbooked { Unbooked.note (s := s) hn with }
    simp only
    split
    · have hbind :=
        books_bind (s := { s with loop.retry := none }.note .retrying) host hs.unburdened
      have hf := hs.endsNoFlush
      simp only [loop_note] at hbind
      rw [hf] at hbind
      exact (h _ rfl).trans hbind
    · exact h _ rfl
  · exact .unbooked (.note rfl)

/-- An update resets the counter if it is at its limit. -/
theorem books_allowBinds (s : System W) :
    Books (decide (s.config.maxRetries ≤ s.loop.retryCount)) s s.allowBinds := by
  obtain ⟨t, ht, heq⟩ := exists_allowBinds_eq s
  have h : Books (decide (s.config.maxRetries ≤ s.loop.retryCount)) s t := by
    rcases ht with ⟨hmax, rfl⟩ | ⟨hmax, rfl⟩
    · rw [decide_eq_true hmax]
      exact .entry (.reset rfl)
    · rw [decide_eq_false hmax]
      exact .refl _
  rw [heq]
  split
  · have hu : Unbooked t { t with loop.state := .unbound } := { Unbooked.refl t with }
    simpa using h.trans (.unbooked hu)
  · exact h

theorem books_availabilityChanged (host : Host W) (hs : Tidy s) (x : Signal) (changed : Bool) :
    Books (decide (s.config.maxRetries ≤ s.loop.retryCount)) s
      (s.availabilityChanged host x changed) := by
  obtain ⟨t, u, ht, rfl, heq⟩ := exists_availabilityChanged_eq host s x changed
  have hu : Tidy (t.unwatch host).allowBinds := (hs.of_loop_eq ht.loop).of_allowBinds
  have hclosed : Books false s (t.unwatch host) :=
    (Books.unbooked (.of_offstage ht)).trans (books_unwatch host t)
  have hallowed := hclosed.trans (books_allowBinds (t.unwatch host))
  rw [Bool.false_or, hclosed.config_eq, loop_unwatch, ht.loop] at hallowed
  rw [heq]
  split
  · have hbind := books_bind (s := (t.unwatch host).allowBinds.note .rebinding) host hu.unburdened
    rw [loop_note, hu.endsNoFlush] at hbind
    simpa using (hallowed.trans (.unbooked (.note rfl))).trans hbind
  · exact hallowed

/-- Whether the loop resets its retry counter when it processes a command: a connection is not
wanted any more, or was only wanted for a flush and is there, or the bind in flight led to one,
or a signal of ours comes after too many binds. -/
def resets (s : System W) : Command → Bool
  | .setEnabled enabled => !enabled
  | .flushAndUnbind => s.loop.state == .connected
  | .connected token _ => decide (s.loop.attempt = some token ∧ s.loop.state = .connecting)
  | .signal id x => decide (s.loop.watching = some id ∧ x.concerns s.extension.package = true ∧
      s.config.maxRetries ≤ s.loop.retryCount)
  | _ => false

theorem books_signalled (host : Host W) (hs : Tidy s) (id : Subscription) (x : Signal) :
    Books (s.resets (.signal id x)) s (s.signalled host id x) := by
  unfold signalled classify resets
  by_cases hid : s.loop.watching = some id
  · by_cases hx : x.concerns s.extension.package = true
    · simpa [hid, hx] using books_availabilityChanged host hs x (x.kind == .packageChanged)
    · have h : Books false s (s.note (.signalUnrelated x)) := .unbooked (.note rfl)
      simpa [hid, hx] using h
  · have h : Books false s (s.note (.signalStale x)) := .unbooked (.note rfl)
    simpa [hid] using h

/-- A command resets the counter exactly if `System.resets` says so. -/
theorem books_obey (host : Host W) (hs : Tidy s) {c : Command} (hc : c ≠ .shutdown) :
    Books (s.resets c) s (s.obey host c) := by
  cases c with
  | setEnabled enabled =>
    have h := books_setEnabled host hs.unburdened enabled
    rwa [hs.endsNoFlush, Bool.or_false] at h
  | flushAndUnbind =>
    have h : Unbooked s { s with loop.flushing := true } := { Unbooked.refl s with }
    have hset := books_setEnabled (s := { s with loop.flushing := true }) host hs.unburdened true
    rw [Bool.and_true, Bool.not_true, Bool.false_or] at hset
    exact (Books.unbooked h).trans hset
  | connected token transport => exact books_connected host s token transport
  | sessionDied token cause => exact books_sessionDied host s token cause
  | deathCheck failed =>
    cases failed with
    | none => exact .unbooked (.note rfl)
    | some token => exact books_sessionDied host s token _
  | retryElapsed generation => exact books_retryElapsed host hs generation
  | signal id x => exact books_signalled host hs id x
  | setChangeListener l => exact .unbooked { Unbooked.refl s with }
  | barrier ticket => exact .unbooked { Unbooked.refl s with }
  | shutdown => exact absurd rfl hc

/-- The status that is published afterwards is one more entry. -/
theorem books_process (host : Host W) (hs : Tidy s) {c : Command} (hc : c ≠ .shutdown) :
    Books (s.resets c) s (s.process host c) := by
  have hn : Books false s (s.note (.received c)) := .unbooked (.note rfl)
  have hr : (s.note (.received c)).resets c = s.resets c := by cases c <;> rfl
  have h := hn.trans (books_obey host (hs.of_loop_eq (loop_note s _)) hc)
  rw [hr, Bool.false_or] at h
  simp only [process, if_neg hc]
  simpa using h.trans (books_publish _)

/-- To take everything down closes the subscription and gives the binding back. -/
theorem books_teardown (host : Host W) (s : System W) : Books false s (s.teardown host) := by
  have hn : Books false s (s.note .destroying) := .unbooked (.note rfl)
  have h := ((hn.trans (.unbooked (unbooked_cancelRetry _))).trans (books_unwatch host _)).trans
    (books_release host _)
  exact h.trans (.unbooked { Unbooked.refl _ with })

end System

/-! ## Runs -/

/-- What a step does is booked, and resets the counter exactly if the command it processes
does. -/
theorem System.books_step {host : Host W} {s : System W} (hs : Tidy s) (a : Step W) :
    Books ((s.command? a).any s.resets) s (s.step host a) := by
  have h := turned_step host s a
  generalize s.command? a = c?, s.step host a = t at h ⊢
  have stopped : ∀ {u v : System W}, Unbooked s u → Unbooked (u.teardown host).publish v →
      Books false s v.stop := fun {u v} hu hv =>
    have h := (Books.unbooked hu).trans ((books_teardown host u).trans
      ((books_publish _).trans (.unbooked hv)))
    h.trans (.unbooked { Unbooked.refl v with })
  cases h with
  | offstage h => exact .unbooked (.of_offstage h)
  | started => exact .unbooked { Unbooked.refl s with journal := .cons rfl }
  | @processed c rest _ _ hc =>
    have hr : Unbooked s { s with inbox := rest } := { Unbooked.refl s with }
    have ht : Tidy { s with inbox := rest } := { hs with }
    have h := (Books.unbooked hr).trans (books_process host ht hc)
    exact h
  | @shutDown rest =>
    have hr : Unbooked s ({ s with inbox := rest }.note (.received .shutdown)) :=
      { Unbooked.refl s with journal := .cons rfl }
    exact stopped hr (.note rfl)
  | closed => exact stopped (.note rfl) (.refl _)

/-- What holds at the start, and is kept by each entry and by all that makes none, holds of all
reachable states. -/
theorem Reachable.books_induct {host : Host W} {motive : System W → Prop}
    (spawn : ∀ x c w, motive (.spawn x c w))
    (unbooked : ∀ s t, Unbooked s t → motive s → motive t)
    (entry : ∀ s r t, Entry s r t → motive s → motive t) {s : System W} (hs : Reachable host s) :
    motive s := by
  induction hs with
  | spawn x c w _ => exact spawn x c w
  | step hs a ih => exact (System.books_step hs.poised.toTidy a).induct ih unbooked entry

end Supervision
