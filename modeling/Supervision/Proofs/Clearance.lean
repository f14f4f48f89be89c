import Supervision.Proofs.Intent
import Supervision.Proofs.Publication
import Supervision.Proofs.Requests
import Supervision.Proofs.Stirring

/-!
# The binder is never asked blindly

A command asks the binder at most once, and as its last deed but for the status. Up to `bind`, a
command asks neither the registry nor the binder (`Approach`); then the registry is asked for the
package and for the component, with nothing in between (`Resolved`); and only if both are there
the binder is asked (`System.approached_obey`). What the loop is like when it asks (`Cleared`) is
not looked up again at that moment: that a connection is wanted was tested before, and that there
is none, nor an attempt, a binding or a session in the slot, is what idle loops are like.
-/

namespace Supervision

variable {W : Type} {host : Host W} {s t u v : System W}

/-! ## Inquiries -/

namespace Fact

/-- What the registry answered when it was asked for the extension. -/
def lookup? : Fact → Option (Except Error Unit)
  | .call (.resolvePackage _ _ a) => some a
  | .call (.resolveComponent _ a) => some a
  | _ => none

/-- The registry was asked for the extension, or the binder for a bind. -/
def isInquiry (f : Fact) : Bool := f.lookup?.isSome || f.isBind

variable {f : Fact}

theorem lookup?_eq_none (h : f.isInquiry = false) : f.lookup? = none := by
  simpa [isInquiry] using (Bool.or_eq_false_iff.1 h).1

theorem isBind_of_isInquiry_eq_false (h : f.isInquiry = false) : f.isBind = false :=
  (Bool.or_eq_false_iff.1 h).2

/-- Callers make no inquiries. -/
theorem isInquiry_of_isOutside (h : f.isOutside = true) : f.isInquiry = false := by
  cases f with
  | call c => cases c <;> first | rfl | cases h
  | _ => rfl

end Fact

theorem Touch.uninquired (h : Touch s t) :
    s.journal.GrowsBy (·.isInquiry = false) t.journal := by
  cases h with
  | wrote hf => exact .cons (Fact.isInquiry_of_isOutside (Fact.isOutside_of_isHearsay hf))
  | sent => exact .cons rfl
  | _ => exact .refl _

/-- Callers and collaborators ask neither the registry for the extension nor the binder. -/
theorem Touched.uninquired (h : Touched s t) :
    s.journal.GrowsBy (·.isInquiry = false) t.journal :=
  h.induct (motive := fun t => s.journal.GrowsBy (·.isInquiry = false) t.journal) (.refl _)
    fun _ _ h hs => hs.trans h.uninquired

namespace System

/-- To call a collaborator for anything else is no inquiry. -/
theorem uninquired_consult (host : Host W) (s : System W) {α : Type} {c : Call}
    (hc : (Fact.call c).isInquiry = false) (r : Reaction Deed α W) :
    s.journal.GrowsBy (·.isInquiry = false) (s.consult host c r).journal :=
  .trans (.cons hc) (touched_consult host s c r).uninquired

theorem uninquired_watch (host : Host W) (s : System W) :
    s.journal.GrowsBy (·.isInquiry = false) (s.watch host).journal := by
  unfold watch
  split
  · exact .cons rfl
  · have h := fun c hc => uninquired_consult host
      { s with nextSubscription := s.nextSubscription + 1 } (c := c) hc
      (host.subscribe s.world ⟨⟨s.nextSubscription⟩, s.extension.user⟩)
    simp only
    split
    · exact (h _ rfl).trans (.cons rfl)
    · exact (h _ rfl).trans (.cons rfl)

theorem uninquired_unwatch (host : Host W) (s : System W) :
    s.journal.GrowsBy (·.isInquiry = false) (s.unwatch host).journal := by
  unfold unwatch
  split
  · exact .refl _
  · exact .trans (.cons rfl) (uninquired_consult host _ rfl _)

theorem uninquired_announceChange (host : Host W) (s : System W) :
    s.journal.GrowsBy (·.isInquiry = false) (s.announceChange host).journal := by
  unfold announceChange
  split
  · exact .refl _
  · exact .trans (.cons rfl) (touched_consultFreely host s _ _).uninquired

theorem uninquired_allowBinds (s : System W) :
    s.journal.GrowsBy (·.isInquiry = false) s.allowBinds.journal := by
  unfold allowBinds
  by_cases hmax : s.config.maxRetries ≤ s.loop.retryCount
  · simp only [if_pos hmax]
    split <;> exact .cons rfl
  · simp only [if_neg hmax]
    split <;> exact .refl _

/-- The retry makes its inquiries when it is due. -/
theorem uninquired_scheduleRetry (s : System W) :
    s.journal.GrowsBy (·.isInquiry = false) s.scheduleRetry.journal := by
  unfold scheduleRetry
  split
  · exact .cons rfl
  · exact .cons rfl

theorem uninquired_publish (s : System W) :
    s.journal.GrowsBy (·.isInquiry = false) s.publish.journal := by
  unfold publish
  split
  · exact .refl _
  · exact .cons rfl

end System

/-! ## What the registry and the binder were asked -/

namespace Journal

/-- What the registry answered when it was asked for the extension, the oldest first. -/
def lookups (j : Journal) : List (Except Error Unit) := j.chronicle Fact.lookup?

/-- How often the binder was asked for a bind. -/
def binds (j : Journal) : Nat := j.countP (·.fact.isBind)

end Journal

/-- From `i` to `j` the registry gave these answers, and the binder was asked for this many
binds. -/
structure Inquired (answers : List (Except Error Unit)) (binds : Nat) (i j : Journal) : Prop where
  lookups : j.lookups = i.lookups ++ answers
  binds : j.binds = i.binds + binds

namespace Inquired

variable {answers answers' : List (Except Error Unit)} {n n' : Nat} {i j k : Journal}

/-- The answers follow one another, and the binds add up. -/
theorem trans (h : Inquired answers n i j) (h' : Inquired answers' n' j k) :
    Inquired (answers ++ answers') (n + n') i k where
  lookups := by rw [h'.lookups, h.lookups, List.append_assoc]
  binds := by rw [h'.binds, h.binds, Nat.add_assoc]

/-- The registry answered. -/
theorem answered {r : Record} {a : Except Error Unit} (ha : r.fact.lookup? = some a)
    (hb : r.fact.isBind = false) : Inquired [a] 0 j (r :: j) where
  lookups := by rw [Journal.lookups, Journal.chronicle_cons, ha]; rfl
  binds := List.countP_cons_of_neg (by simp [hb])

/-- The binder was asked. -/
theorem asked {r : Record} (ha : r.fact.lookup? = none) (hb : r.fact.isBind = true) :
    Inquired [] 1 j (r :: j) where
  lookups := by rw [Journal.lookups, Journal.chronicle_cons, ha]; rfl
  binds := List.countP_cons_of_pos hb

/-- Without an inquiry there is no answer. -/
theorem of_growsBy (h : i.GrowsBy (·.isInquiry = false) j) : Inquired [] 0 i j where
  lookups := by
    rw [List.append_nil]
    exact Journal.chronicle_of_growsBy h fun _ => Fact.lookup?_eq_none
  binds := by
    obtain ⟨new, rfl, hnew⟩ := h
    have hspared (r : Record) (hr : r ∈ new) : ¬r.fact.isBind = true := by
      simp [Fact.isBind_of_isInquiry_eq_false (hnew r hr)]
    rw [Journal.binds, List.countP_append, List.countP_eq_zero.2 hspared, Nat.add_comm]
    rfl

/-- What was asked stands in the new part of the journal. -/
theorem of_append (h : Inquired answers n i (j ++ i)) : j.lookups = answers ∧ j.binds = n := by
  have hlookups : Journal.lookups (j ++ i) = i.lookups ++ j.lookups := by
    simp [Journal.lookups, Journal.chronicle]
  have hbinds : Journal.binds (j ++ i) = i.binds + j.binds := by
    rw [Journal.binds, List.countP_append, Nat.add_comm]
    rfl
  exact ⟨List.append_cancel_left (hlookups.symm.trans h.lookups),
    Nat.add_left_cancel (hbinds.symm.trans h.binds)⟩

end Inquired

/-! ## Lookups -/

/-- What comes of asking the registry for the extension: `Resolved s t r` says that `s` became `t`
and that the answer is `r`. -/
inductive Resolved (s : System W) : System W → Except Error Unit → Prop
  | found {w : W} : Resolved s { (s.record (.call (.resolvePackage s.extension.package
      s.extension.user (.ok ())))).record (.call (.resolveComponent s.extension (.ok ()))) with
        world := w } (.ok ())
  | packageMissing {e : Error} {w : W} : Resolved s { s.record (.call (.resolvePackage
      s.extension.package s.extension.user (.error e))) with world := w } (.error e)
  | componentMissing {e : Error} {w : W} : Resolved s { (s.record (.call (.resolvePackage
      s.extension.package s.extension.user (.ok ())))).record (.call (.resolveComponent s.extension
        (.error e))) with world := w } (.error e)

/-- The component is only looked up if the package is there. -/
theorem System.resolved_resolve (host : Host W) (s : System W) :
    Resolved s (s.resolve host).1 (s.resolve host).2 := by
  simp only [resolve]
  cases hp : (host.resolvePackage s.world s.extension.package s.extension.user).1 with
  | error e => exact .packageMissing
  | ok x =>
    obtain rfl : x = () := rfl
    simp only
    generalize hr : host.resolveComponent _ _ = r
    obtain ⟨_ | x, w⟩ := r
    · exact .componentMissing
    · exact .found

/-- A lookup is tacit. -/
theorem Resolved.tacit {r : Except Error Unit} (h : Resolved s t r) : Tacit s t := by
  have called (s : System W) {c : Call} (hc : (Fact.call c).isTacit = true) :
      Tacit s (s.record (.call c)) := System.tacit_of_call hc (.refl _)
  cases h with
  | found => exact { (called s rfl).trans (called _ rfl) with }
  | packageMissing => exact { called s rfl with }
  | componentMissing => exact { (called s rfl).trans (called _ rfl) with }

/-! ## What the loop is like when it asks the binder -/

/-- The loop is about to ask the binder for a bind, in the course of a step from `s`. -/
structure Cleared (s u : System W) : Prop where
  extension : u.extension = s.extension
  config : u.config = s.config
  desired : u.loop.desired = true
  binding : u.loop.binding = none
  attempt : u.loop.attempt = none
  session : u.loop.session = none
  slot : u.slot = none
  /-- Fewer binds were tried than allowed, since the counter was last reset. -/
  attempts : u.journal.attempts < u.config.maxRetries.toNat
  /-- The token of the request is greater than that of each earlier one. -/
  issued : ∀ r ∈ u.journal, ∀ q a, r.fact = .call (.bind q a) → q.token.number < u.nextToken
  /-- Just now, and in this step only, the registry had the package and then the component. -/
  resolved : ∃ time time' older, s.journal.GrowsBy (·.isInquiry = false) older ∧
    u.journal = ⟨time', .call (.resolveComponent s.extension (.ok ()))⟩ ::
      ⟨time, .call (.resolvePackage s.extension.package s.extension.user (.ok ()))⟩ :: older

/-- What a command may do up to `bind` : neither the registry nor the binder is asked. -/
structure Approach (host : Host W) (s v : System W) : Prop where
  moves : Moves host s v
  tacit : Tacit s v
  books : ∃ r, Books r s v
  extension : v.extension = s.extension
  journal : s.journal.GrowsBy (·.isInquiry = false) v.journal

namespace Approach

theorem trans (h : Approach host s t) (h' : Approach host t u) : Approach host s u where
  moves := h.moves.trans h'.moves
  tacit := h.tacit.trans h'.tacit
  books := by
    obtain ⟨r, hr⟩ := h.books
    obtain ⟨r', hr'⟩ := h'.books
    exact ⟨_, hr.trans hr'⟩
  extension := h'.extension.trans h.extension
  journal := h.journal.trans h'.journal

/-- What is wanted changes, or the retry that was scheduled is used up. -/
theorem of_wish (host : Host W) (s : System W) (desired flushing : Bool) (retry : Option Nat) :
    Approach host s { s with
      loop.desired := desired, loop.flushing := flushing, loop.retry := retry } where
  moves := .single (.still { Still.refl s with })
  tacit := (Tacit.refl s).of_loop rfl rfl rfl
  books := ⟨false, .unbooked { Unbooked.refl s with }⟩
  extension := rfl
  journal := .refl _

theorem note (host : Host W) (s : System W) {n : Note} (hn : (Fact.note n).isQuiet = true)
    (hentry : (Fact.note n).isEntry = false) : Approach host s (s.note n) where
  moves := (System.still_note hn).moves host
  tacit := System.tacit_note s n
  books := ⟨false, .unbooked (.note hentry)⟩
  extension := rfl
  journal := .cons rfl

theorem announceChange (host : Host W) (s : System W) :
    Approach host s (s.announceChange host) where
  moves := (System.meanwhile_announceChange host s).moves host
  tacit := .of_offstage (System.offstage_announceChange host s)
  books := ⟨false, .unbooked (.of_offstage (System.offstage_announceChange host s))⟩
  extension := (System.offstage_announceChange host s).extension
  journal := System.uninquired_announceChange host s

theorem unwatch (host : Host W) (s : System W) : Approach host s (s.unwatch host) where
  moves := (System.still_unwatch host s).moves host
  tacit := System.tacit_unwatch host s
  books := ⟨_, System.books_unwatch host s⟩
  extension := (System.stirred_unwatch host s).steady.extension
  journal := System.uninquired_unwatch host s

theorem allowBinds (host : Host W) (s : System W) : Approach host s s.allowBinds where
  moves := (System.still_allowBinds s).moves host
  tacit := System.tacit_allowBinds s
  books := ⟨_, System.books_allowBinds s⟩
  extension := (System.stirred_allowBinds s).steady.extension
  journal := System.uninquired_allowBinds s

end Approach

/-- What comes of a command: the binder is not asked, or an idle loop that wants a connection makes
an attempt. -/
inductive Approached (host : Host W) (s : System W) : System W → Prop
  | tacit {t : System W} (h : Tacit s t) : Approached host s t
  | attempted {v : System W} (h : Approach host s v) (hd : v.loop.desired = true)
      (hi : v.loop.state.isIdle = true) : Approached host s (v.attemptBind host)

namespace System

/-- To see to a connection that is wanted approaches the binder. -/
theorem approached_bind (h : Approach host s v) (hd : v.loop.desired = true) :
    Approached host s (v.bind host) := by
  unfold bind
  split <;> rename_i hst
  · split
    · exact .tacit (h.tacit.trans ((tacit_note v _).trans (tacit_finishFlush host _)))
    · exact .tacit h.tacit
  · exact .tacit (h.tacit.trans (tacit_note v _))
  · exact .attempted h hd (by rw [hst]; rfl)
  · exact .attempted h hd (by rw [hst]; rfl)

/-- So does a request for one. -/
theorem approached_setEnabled (h : Approach host s v) (enabled : Bool) :
    Approached host s (v.setEnabled host enabled) := by
  unfold setEnabled
  split
  · exact approached_bind (h.trans (.of_wish host v true v.loop.flushing v.loop.retry)) rfl
  · have hw := (h.trans (.of_wish host v false false v.loop.retry)).tacit
    exact .tacit (hw.trans (tacit_disconnect host _))

/-- A retry that counts does so if a connection is still wanted. -/
theorem approached_retryElapsed (h : Approach host s v) (generation : Nat) :
    Approached host s (v.retryElapsed host generation) := by
  have hused := h.trans (.of_wish host v v.loop.desired v.loop.flushing none)
  unfold retryElapsed
  split
  · simp only
    split
    · exact approached_bind (hused.trans (.note host _ rfl rfl)) ‹_›
    · exact .tacit (hused.tacit.trans (tacit_note _ _))
  · exact .tacit (h.tacit.trans (tacit_note v _))

/-- Up to the bind that a signal of ours may lead to, the loop closes the subscription and allows
binds again. -/
theorem exists_approach_availabilityChanged (host : Host W) (s : System W) (x : Signal)
    (changed : Bool) : ∃ t u, Approach host s t ∧ t.loop = s.loop ∧
      u = (t.unwatch host).allowBinds ∧
      s.availabilityChanged host x changed =
        if u.loop.desired then (u.note .rebinding).bind host else u := by
  have hnote : Approach host s (s.note (.availabilityChanged x)) := .note host s rfl rfl
  unfold availabilityChanged
  generalize ht : s.note (.availabilityChanged x) = t at hnote
  have hl : t.loop = s.loop := by rw [← ht, loop_note]
  cases changed with
  | false => exact ⟨t, _, hnote, hl, rfl, rfl⟩
  | true =>
    refine ⟨t.announceChange host, _, hnote.trans (.announceChange host t), ?_, rfl, rfl⟩
    rw [(offstage_announceChange host t).loop, hl]

/-- A signal approaches the binder if a connection is wanted. -/
theorem approached_availabilityChanged (h : Approach host s v) (x : Signal) (changed : Bool) :
    Approached host s (v.availabilityChanged host x changed) := by
  obtain ⟨t, u, ht, -, rfl, heq⟩ := exists_approach_availabilityChanged host v x changed
  have hallowed := ((h.trans ht).trans (.unwatch host t)).trans (.allowBinds host _)
  rw [heq]
  split
  · exact approached_bind (hallowed.trans (.note host _ rfl rfl)) ‹_›
  · exact .tacit hallowed.tacit

/-- No command asks the binder but by an attempt, at the end. -/
theorem approached_obey (h : Approach host s v) {c : Command} (hc : c ≠ .shutdown) :
    Approached host s (v.obey host c) := by
  cases c with
  | setEnabled enabled => exact approached_setEnabled h enabled
  | flushAndUnbind =>
    exact approached_setEnabled (h.trans (.of_wish host v v.loop.desired true v.loop.retry)) true
  | connected token transport =>
    exact .tacit (h.tacit.trans (tacit_connected host v token transport))
  | sessionDied token cause => exact .tacit (h.tacit.trans (tacit_sessionDied host v token cause))
  | deathCheck failed =>
    cases failed with
    | none => exact .tacit (h.tacit.trans (tacit_note v _))
    | some token => exact .tacit (h.tacit.trans (tacit_sessionDied host v token _))
  | retryElapsed generation => exact approached_retryElapsed h generation
  | signal id x =>
    simp only [obey, signalled]
    split
    · exact .tacit (h.tacit.trans (tacit_note v _))
    · exact .tacit (h.tacit.trans (tacit_note v _))
    · exact approached_availabilityChanged h x _
  | setChangeListener l => exact .tacit (h.tacit.of_loop rfl rfl rfl)
  | barrier ticket => exact .tacit (h.tacit.trans ⟨Nat.le_refl _, .refl _, .inl ⟨rfl, rfl, rfl⟩⟩)
  | shutdown => exact absurd rfl hc

/-! ## Asking the binder -/

/-- While binds are allowed, the registry is asked for the extension, and if it was found then the
binder. -/
theorem exists_attemptBind_eq (host : Host W) (hmax : v.loop.retryCount < v.config.maxRetries) :
    ∃ u r, Resolved v u r ∧ v.attemptBind host = match r with
      | .ok _ => u.tryBind host
      | .error e => { (u.note (.notAvailable e)).watch host with loop.state := .unbound } := by
  refine ⟨_, _, resolved_resolve host v, ?_⟩
  unfold attemptBind checkAvailable
  rw [if_neg (UInt32.not_le.2 hmax)]
  generalize v.resolve host = p
  obtain ⟨u, e | x⟩ := p
  · rfl
  · rfl

/-- With an idle loop that wants a connection, the binder is only asked if the extension was
found, and after that nobody is asked. -/
theorem attemptBind_cases (host : Host W) (hi : v.loop.state.isIdle = true) :
    Tacit v (v.attemptBind host) ∨
    v.loop.retryCount < v.config.maxRetries ∧ ∃ u, Resolved v u (.ok ()) ∧
      v.attemptBind host = u.tryBind host := by
  by_cases hmax : v.config.maxRetries ≤ v.loop.retryCount
  · left
    rw [attemptBind, if_pos hmax]
    exact tacit_giveUp host hi
  have hlt := UInt32.not_le.1 hmax
  obtain ⟨u, r, hu, heq⟩ := exists_attemptBind_eq host hlt
  cases r with
  | ok x => exact .inr ⟨hlt, u, hu, heq⟩
  | error e =>
    have hwatching := (hu.tacit.trans (tacit_note u (.notAvailable e))).trans (tacit_watch host _)
    rw [heq]
    exact .inl (hwatching.of_loop rfl rfl (hwatching.isIdle hi).symm)

/-- All that comes of asking the binder is that it is asked. -/
theorem uninquired_tryBind (host : Host W) (hb : s.loop.binding = none) : ∃ a,
    (s.asked a).journal.GrowsBy (·.isInquiry = false) (s.tryBind host).journal := by
  obtain ⟨t, ⟨b, ht, heq⟩ | ⟨e, ht, heq⟩⟩ := exists_tryBind_eq host s
  · have htb : t.loop.binding = none := by
      rw [ht.offstage.loop]
      exact hb
    rw [heq, keepBinding_eq host htb]
    exact ⟨.ok b, ht.uninquired⟩
  · have hfailed : t.journal.GrowsBy (·.isInquiry = false)
        { t.note (.bindFailed e) with loop.state := .unbound }.journal := .cons rfl
    rw [heq]
    exact ⟨.error e, (ht.uninquired.trans hfailed).trans (uninquired_scheduleRetry _)⟩

/-- The binder is asked once, and nobody else. -/
theorem inquired_tryBind (host : Host W) (hb : s.loop.binding = none) :
    Inquired [] 1 s.journal (s.tryBind host).journal := by
  obtain ⟨a, h⟩ := uninquired_tryBind host hb
  have hasked : Inquired [] 1 s.journal (s.asked a).journal :=
    (Inquired.of_growsBy (.cons rfl)).trans (.asked rfl rfl)
  exact hasked.trans (.of_growsBy h)

end System

/-- When the registry has the extension, a loop that makes an attempt is cleared to ask the
binder. -/
theorem Approach.cleared (h : Approach host s v) (hcoherent : Coherent s)
    (hrequested : Requested s) (hcounted : Counted s) (hd : v.loop.desired = true)
    (hi : v.loop.state.isIdle = true) (hmax : v.loop.retryCount < v.config.maxRetries)
    (hu : Resolved v u (.ok ())) : Cleared s u := by
  -- the invariants hold between steps; an approach keeps them up to this moment
  have hcoherent : Coherent v :=
    h.moves.induct (motive := Coherent) hcoherent fun _ _ h hs => hs.of_move h
  have hrequested : Requested v := hrequested.of_tacit h.tacit
  obtain ⟨r, hbooks⟩ := h.books
  have hcounted : Counted v :=
    hbooks.induct hcounted (fun _ _ h hs => hs.of_unbooked h) fun _ _ _ h hs => hs.of_entry h
  have hbinding : v.loop.binding = none := by simpa [hi] using hrequested.binding
  have hslot : v.slot = none := by
    refine Option.eq_none_iff_forall_ne_some.2 fun x hx => ?_
    rw [(hcoherent.slot x hx).1] at hi
    cases hi
  have hattempts : v.journal.attempts < v.config.maxRetries.toNat := by
    rw [← hcounted.count]
    exact UInt32.lt_iff_toNat_lt.1 hmax
  cases hu with
  | found =>
    exact {
      extension := h.extension
      config := hbooks.config_eq
      desired := hd
      binding := hbinding
      attempt := (hcoherent.idle hi).1
      session := (hcoherent.idle hi).2
      slot := hslot
      attempts := by
        simp only [System.record]
        rw [Journal.attempts_of_not_isEntry rfl, Journal.attempts_of_not_isEntry rfl]
        exact hattempts
      issued := by
        intro r hr q a hq
        rcases List.mem_cons.1 hr with rfl | hr
        · cases hq
        rcases List.mem_cons.1 hr with rfl | hr
        · cases hq
        · exact hrequested.issued r hr q a hq
      resolved := ⟨v.clock, v.clock, v.journal, h.journal, by rw [← h.extension]; rfl⟩ }

/-- A step does not ask the binder, or it does so in the end of a command, when it is cleared to. -/
theorem System.cleared_step (hs : Reachable host s) (a : Step W) :
    s.journal.GrowsBy (·.isBind = false) (s.step host a).journal ∨
    ∃ u, (s.command? a).isSome = true ∧ Cleared s u ∧
      s.step host a = (u.tryBind host).publish := by
  have tacit {u : System W} (h : Tacit s u) : s.journal.GrowsBy (·.isBind = false) u.journal :=
    h.journal.imp fun _ => Fact.isBind_eq_false_of_isTacit
  have published (u : System W) : u.journal.GrowsBy (·.isBind = false) u.publish.journal :=
    (uninquired_publish u).imp fun _ => Fact.isBind_of_isInquiry_eq_false
  have taken (rest : List Command) : Tacit s { s with inbox := rest } :=
    ⟨Nat.le_refl _, .refl _, .inl ⟨rfl, rfl, rfl⟩⟩
  have h := turned_step host s a
  generalize s.command? a = c?, s.step host a = t at h ⊢
  cases h with
  | offstage h => exact .inl (h.journal.imp fun _ => Fact.isBind_eq_false)
  | started => exact .inl (.cons rfl)
  | @processed c rest _ _ hc =>
    have hreceived : Approach host { s with inbox := rest }
        ({ s with inbox := rest }.note (.received c)) := .note host _ rfl rfl
    have hobey := approached_obey hreceived hc
    simp only [process, if_neg hc]
    generalize ({ s with inbox := rest }.note (.received c)).obey host c = v at hobey ⊢
    cases hobey with
    | tacit h => exact .inl ((tacit ((taken rest).trans h)).trans (published v))
    | @attempted v h hd hi =>
      rcases attemptBind_cases host hi with ht | ⟨hmax, u, hu, heq⟩
      · have hspared := (taken rest).trans (h.tacit.trans ht)
        exact .inl ((tacit hspared).trans (published _))
      · have hcleared := h.cleared { hs.coherent with } { hs.requested with } { hs.counted with }
          hd hi hmax hu
        exact .inr ⟨u, rfl, { hcleared with }, by rw [heq]⟩
  | @shutDown rest =>
    have hnote := (taken rest).trans (tacit_note _ (.received .shutdown))
    have ht := hnote.trans (tacit_teardown host _)
    exact .inl (((tacit ht).trans (published _)).trans (.cons rfl))
  | closed =>
    have ht := (tacit_note s .allHandlesDropped).trans (tacit_teardown host _)
    exact .inl ((tacit ht).trans (published _))

namespace Cleared

/-- The request is written down as the binder is asked, and nobody is asked after it. -/
theorem exists_journal_eq (hu : Cleared s u) (host : Host W) : ∃ answer later,
    (u.tryBind host).publish.journal = later ++
      ⟨u.clock, .call (.bind ⟨⟨u.nextToken⟩, s.extension, s.config.flags⟩ answer)⟩ ::
        ⟨u.clock, .note (.binding ⟨u.nextToken⟩ (u.loop.retryCount + 1))⟩ :: u.journal ∧
    ∀ r ∈ later, r.fact.isInquiry = false := by
  obtain ⟨answer, hasked⟩ := System.uninquired_tryBind host hu.binding
  obtain ⟨later, hj, hlater⟩ := hasked.trans (System.uninquired_publish _)
  refine ⟨answer, later, ?_, hlater⟩
  rw [hj, ← hu.extension, ← hu.config]
  rfl

/-- In the whole step the registry is asked for the package and for the component, and the binder
once. -/
theorem inquired (hu : Cleared s u) (host : Host W) :
    Inquired [.ok (), .ok ()] 1 s.journal (u.tryBind host).publish.journal := by
  obtain ⟨time, time', older, hspared, hlookups⟩ := hu.resolved
  have hfound : Inquired [.ok (), .ok ()] 0 older u.journal := by
    rw [hlookups]
    exact (Inquired.answered rfl rfl).trans (.answered rfl rfl)
  have hasked := (Inquired.of_growsBy hspared).trans hfound
  exact (hasked.trans (System.inquired_tryBind host hu.binding)).trans
    (.of_growsBy (System.uninquired_publish _))

end Cleared

/-- A step asks the binder for nothing, or it processes a command and asks for one bind, after
which nobody is asked any more. At that moment the loop is cleared to do so: just before, and in
that order, the registry had the package and the component of the extension; a connection is
wanted; there is no binding, no attempt, no session and none in the slot, and fewer binds were
tried than allowed. The request bears the extension, the configured flags, and a token greater than
that of each request before. So no step in which a lookup fails asks the binder. -/
theorem binder_is_never_asked_blindly (hs : Reachable host s) (a : Step W) :
    (s.journal.GrowsBy (·.isBind = false) (s.step host a).journal ∨
      ∃ u answer later, (s.command? a).isSome = true ∧ Cleared s u ∧
        s.step host a = (u.tryBind host).publish ∧
        (s.step host a).journal = later ++
          ⟨u.clock, .call (.bind ⟨⟨u.nextToken⟩, s.extension, s.config.flags⟩ answer)⟩ ::
            ⟨u.clock, .note (.binding ⟨u.nextToken⟩ (u.loop.retryCount + 1))⟩ :: u.journal ∧
        ∀ r ∈ later, r.fact.isInquiry = false) ∧
    ∀ new, (s.step host a).journal = new ++ s.journal →
      new.countP (·.fact.isBind) ≤ 1 ∧
      ((∃ r ∈ new, ∃ e, r.fact.lookup? = some (.error e)) → ∀ r ∈ new, r.fact.isBind = false) := by
  rcases System.cleared_step hs a with h | ⟨u, hcommand, hu, heq⟩
  · refine ⟨.inl h, fun new hnew => ?_⟩
    obtain ⟨new', hj, hspared⟩ := h
    obtain rfl : new' = new := List.append_cancel_right (hj.symm.trans hnew)
    refine ⟨?_, fun _ => hspared⟩
    rw [List.countP_eq_zero.2 fun r hr => by simp [hspared r hr]]
    exact Nat.zero_le 1
  · obtain ⟨answer, later, hj, hlater⟩ := hu.exists_journal_eq host
    have hinquired := hu.inquired host
    rw [← heq] at hj hinquired
    refine ⟨.inr ⟨u, answer, later, hcommand, hu, heq, hj, hlater⟩, fun new hnew => ?_⟩
    rw [hnew] at hinquired
    obtain ⟨hlookups, hbinds⟩ := hinquired.of_append
    refine ⟨Nat.le_of_eq hbinds, ?_⟩
    rintro ⟨r, hr, e, he⟩
    have hmem : .error e ∈ Journal.lookups new :=
      List.mem_filterMap.2 ⟨r, List.mem_reverse.2 hr, he⟩
    simp [hlookups] at hmem

/-- A supervisor whose first bind was turned down, and whose retry is due. -/
def Scenario.retrying : System World :=
  (System.spawn ⟨⟨0⟩, ⟨"music"⟩, ⟨"player"⟩⟩ {} { script := [{ mode := .reject "busy" }] }).run
    Scenario.host
    [.turn, .act (.deed (.ask (.setEnabled true))), .turn, .wait 1000, .fire ⟨1, 1000⟩]

theorem Scenario.reachable_retrying : Reachable Scenario.host retrying :=
  (Reachable.spawn _ _ _ rfl).run _

theorem retrying_is_cleared : ∃ u,
    Cleared Scenario.retrying u ∧ u.journal.attempts < 5 ∧
    Scenario.retrying.step Scenario.host .turn = (u.tryBind Scenario.host).publish := by
  have hbinds : (Scenario.retrying.step Scenario.host .turn).journal.countP (·.fact.isBind) =
      Scenario.retrying.journal.countP (·.fact.isBind) + 1 := rfl
  obtain ⟨⟨new, hj, hspared⟩ | ⟨u, -, -, -, hu, heq, -⟩, -⟩ :=
    binder_is_never_asked_blindly Scenario.reachable_retrying .turn
  · rw [hj, List.countP_append, List.countP_eq_zero.2 fun r hr => by simp [hspared r hr]] at hbinds
    omega
  · have hmax : u.config.maxRetries.toNat = 5 := congrArg (·.maxRetries.toNat) hu.config
    exact ⟨u, hu, hmax ▸ hu.attempts, heq⟩

end Supervision
