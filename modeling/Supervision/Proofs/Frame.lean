import Supervision.Run

/-!
# What leaves the connection alone

Most of what happens to a supervisor has nothing to do with its connection or with the
events it keeps. Three relations between a supervisor and what became of it say how much
was left alone.

`Aside s t` : the loop's own state was left alone. So it is with all that callers and
collaborators do, and with a replay.

`Unheard s t` : so were the pending events and the slot, and the journal only grew by facts
that tell nothing of a session or an event (`Fact.isQuiet`). So it is with every deed.

`Still s t` : the loop may have changed, but not the connection: the attempt, the session,
the slot and the pending events are the same, and if the state changed, there was no
connection before or after. So it is with retries, watching, looking up the extension and
publishing the status.
-/

namespace Supervision

/-- No bind is in flight and no session is there. -/
def ConnectionState.isIdle : ConnectionState → Bool
  | .unbound | .givingUp => true
  | .connecting | .connected => false

/-! ## Growing journals -/

/-- Facts that tell of an event, or of a replay. -/
def Fact.isEventful : Fact → Bool
  | .told .. | .planned .. | .call (.dispatch ..) | .note (.dropping ..) => true
  | _ => false

/-- Facts that announce the end of a connection. -/
def Fact.isFarewell : Fact → Bool
  | .note .unbinding | .note .destroying | .note (.sessionDied ..) => true
  | _ => false

/-- Facts that tell nothing of a session or an event. -/
def Fact.isQuiet (f : Fact) : Bool := !f.isEventful && !f.isFarewell

/-- A quiet fact tells of no event. -/
theorem Fact.isEventful_eq_false {f : Fact} (h : f.isQuiet) : f.isEventful = false := by
  simp_all [isQuiet]

/-- Nor does it announce the end of a connection. -/
theorem Fact.isFarewell_eq_false {f : Fact} (h : f.isQuiet) : f.isFarewell = false := by
  simp_all [isQuiet]

/-- `newer` is `older` with facts on top that all satisfy `p`. -/
def Journal.GrowsBy (p : Fact → Prop) (older newer : Journal) : Prop :=
  ∃ new, newer = new ++ older ∧ ∀ r ∈ new, p r.fact

namespace Journal.GrowsBy

variable {p q : Fact → Prop} {i j k : Journal}

theorem refl (j : Journal) : GrowsBy p j j := ⟨[], rfl, by simp⟩

theorem trans (h : GrowsBy p i j) (h' : GrowsBy p j k) : GrowsBy p i k := by
  obtain ⟨new, rfl, hnew⟩ := h
  obtain ⟨new', rfl, hnew'⟩ := h'
  refine ⟨new' ++ new, by simp, fun r hr => ?_⟩
  rcases List.mem_append.1 hr with hr | hr
  · exact hnew' r hr
  · exact hnew r hr

theorem cons {r : Record} (hr : p r.fact) : GrowsBy p j (r :: j) := ⟨[r], rfl, by simpa using hr⟩

/-- What all new facts satisfy may be weakened. -/
theorem imp (h : GrowsBy p i j) (hpq : ∀ f, p f → q f) : GrowsBy q i j := by
  obtain ⟨new, rfl, hnew⟩ := h
  exact ⟨new, rfl, fun r hr => hpq _ (hnew r hr)⟩

/-- A journal that grows by quiet facts tells of no event. -/
theorem uneventful (h : GrowsBy (·.isQuiet) i j) : GrowsBy (·.isEventful = false) i j :=
  h.imp fun _ => Fact.isEventful_eq_false

/-- What each new fact keeps is kept. -/
theorem induct {motive : Journal → Prop} (h : GrowsBy p i j) (hi : motive i)
    (hcons : ∀ r j, p r.fact → motive j → motive (r :: j)) : motive j := by
  obtain ⟨new, rfl, hnew⟩ := h
  induction new with
  | nil => exact hi
  | cons r new ih =>
    rw [List.forall_mem_cons] at hnew
    exact hcons r _ hnew.1 (ih hnew.2)

end Journal.GrowsBy

/-! ## The three relations -/

variable {W : Type}

/-- The loop's own state was left alone. -/
structure Aside (s t : System W) : Prop where
  extension : t.extension = s.extension
  config : t.config = s.config
  loop : t.loop = s.loop
  status : t.status = s.status
  phase : t.phase = s.phase
  inbox : s.inbox <+: t.inbox
  nextToken : s.nextToken ≤ t.nextToken

/-- Nothing was changed that the loop decides by, nor the events or the slot. -/
structure Unheard (s t : System W) : Prop extends Aside s t where
  pending : t.pending = s.pending
  slot : t.slot = s.slot
  journal : s.journal.GrowsBy (·.isQuiet) t.journal

/-- The connection and the events were left alone. -/
structure Still (s t : System W) : Prop where
  state : t.loop.state = s.loop.state ∨ s.loop.state.isIdle ∧ t.loop.state.isIdle
  attempt : t.loop.attempt = s.loop.attempt
  session : t.loop.session = s.loop.session
  dropped : t.loop.dropped = s.loop.dropped
  pending : t.pending = s.pending
  slot : t.slot = s.slot
  phase : t.phase = s.phase
  inbox : s.inbox <+: t.inbox
  nextToken : s.nextToken ≤ t.nextToken
  journal : s.journal.GrowsBy (·.isQuiet) t.journal

theorem Aside.refl (s : System W) : Aside s s :=
  ⟨rfl, rfl, rfl, rfl, rfl, List.prefix_rfl, Nat.le_refl _⟩

theorem Aside.trans {s t u : System W} (h : Aside s t) (h' : Aside t u) : Aside s u where
  extension := h'.extension.trans h.extension
  config := h'.config.trans h.config
  loop := h'.loop.trans h.loop
  status := h'.status.trans h.status
  phase := h'.phase.trans h.phase
  inbox := h.inbox.trans h'.inbox
  nextToken := Nat.le_trans h.nextToken h'.nextToken

theorem Unheard.refl (s : System W) : Unheard s s := ⟨.refl s, rfl, rfl, .refl _⟩

theorem Unheard.trans {s t u : System W} (h : Unheard s t) (h' : Unheard t u) : Unheard s u where
  toAside := h.toAside.trans h'.toAside
  pending := h'.pending.trans h.pending
  slot := h'.slot.trans h.slot
  journal := h.journal.trans h'.journal

/-- What leaves the whole loop alone leaves the connection alone. -/
theorem Unheard.still {s t : System W} (h : Unheard s t) : Still s t where
  state := .inl (by rw [h.loop])
  attempt := by rw [h.loop]
  session := by rw [h.loop]
  dropped := by rw [h.loop]
  pending := h.pending
  slot := h.slot
  phase := h.phase
  inbox := h.inbox
  nextToken := h.nextToken
  journal := h.journal

namespace Still

variable {s t u : System W}

theorem refl (s : System W) : Still s s := (Unheard.refl s).still

/-- An idle loop stays idle. -/
theorem isIdle (h : Still s t) (hs : s.loop.state.isIdle) : t.loop.state.isIdle := by
  rcases h.state with ht | ⟨-, ht⟩
  · rwa [ht]
  · exact ht

theorem trans (h : Still s t) (h' : Still t u) : Still s u where
  state := by
    rcases h'.state with hu | ⟨ht, hu⟩
    · rw [hu]
      exact h.state
    · rcases h.state with hs | ⟨hs, -⟩
      · exact .inr ⟨hs ▸ ht, hu⟩
      · exact .inr ⟨hs, hu⟩
  attempt := h'.attempt.trans h.attempt
  session := h'.session.trans h.session
  dropped := h'.dropped.trans h.dropped
  pending := h'.pending.trans h.pending
  slot := h'.slot.trans h.slot
  phase := h'.phase.trans h.phase
  inbox := h.inbox.trans h'.inbox
  nextToken := Nat.le_trans h.nextToken h'.nextToken
  journal := h.journal.trans h'.journal

/-- A connection that is there, or being made, stands as it did. -/
theorem state_eq (h : Still s t) (ht : ¬t.loop.state.isIdle) : t.loop.state = s.loop.state :=
  h.state.resolve_right fun hst => ht hst.2

end Still

namespace System

variable {host : Host W} {s : System W}

/-! ## Deeds -/

/-- To write down a quiet fact changes nothing else. -/
theorem unheard_record {f : Fact} (hf : f.isQuiet) : Unheard s (s.record f) :=
  { Unheard.refl s with journal := .cons hf }

theorem unheard_note {n : Note} (hn : (Fact.note n).isQuiet) : Unheard s (s.note n) :=
  unheard_record hn

/-- To post a command changes the inbox only. -/
theorem unheard_enqueue (c : Command) : Unheard s (s.enqueue c) :=
  { Unheard.refl s with inbox := List.prefix_append .. }

/-- A command that is posted through a handle waits, or is dropped with a note. -/
theorem unheard_submit (c : Command) : Unheard s (s.submit c) := by
  unfold submit
  split
  · exact unheard_enqueue c
  · exact unheard_record rfl

/-- So does one that is reported, unless nobody holds on to the supervisor. -/
theorem unheard_notify (c : Command) : Unheard s (s.notify c) := by
  unfold notify
  split
  · exact unheard_record rfl
  · split
    · exact unheard_enqueue c
    · exact .refl s

/-- What a caller asks of the loop is left for the loop to do. -/
theorem unheard_ask (r : Request) : Unheard s (s.ask r) := by
  unfold ask
  split
  · exact .refl s
  · cases r with
    | settle =>
      simp only
      split
      · have h := unheard_enqueue (s := s) (.barrier s.nextTicket)
        exact { h with }
      · exact .refl s
    | shutdown =>
      simp only
      split
      · have h := unheard_enqueue (s := s) .shutdown
        exact { h with }
      · exact unheard_record rfl
    | _ => exact unheard_submit _

/-- To look up the metadata is written down, and may be said to have failed. -/
theorem unheard_lookUp (host : Host W) : Unheard s (s.lookUp host) := by
  have h : ∀ w, Unheard s (s.lookedUp (.metadata s.extension) w) := fun _ =>
    { Unheard.refl s with journal := .cons rfl }
  unfold lookUp
  simp only
  split
  · exact h _
  · exact (h _).trans (unheard_record rfl)

/-- Whatever a collaborator does meanwhile, the loop and the events are left alone. -/
theorem unheard_perform (host : Host W) (d : Deed) : Unheard s (s.perform host d) := by
  cases d with
  | ask r => exact unheard_ask r
  | report r => exact unheard_notify _
  | lookUp =>
    simp only [perform]
    split
    · exact .refl s
    · exact unheard_lookUp host
  | clone =>
    simp only [perform]
    split
    · exact .refl s
    · exact { Unheard.refl s with }
  | drop => exact { Unheard.refl s with }
  | drawToken => exact { Unheard.refl s with nextToken := Nat.le_succ _ }

/-- So they are by all that it does. -/
theorem unheard_foldl_perform (host : Host W) (ds : List Deed) :
    Unheard s (ds.foldl (perform host) s) :=
  List.foldlRecOn ds (perform host) (Unheard.refl s) fun _ h d _ => h.trans (unheard_perform host d)

/-- After a collaborator's call is written down, nothing is heard of it. -/
theorem unheard_consult (host : Host W) {α : Type} (c : Call) (r : Reaction Deed α W) :
    Unheard (s.record (.call c)) (s.consult host c r) := by
  have h : Unheard (s.record (.call c)) { s.record (.call c) with world := r.world } :=
    { Unheard.refl (s.record (.call c)) with }
  exact h.trans (unheard_foldl_perform host _)

/-- To say something quiet leaves the connection alone. -/
theorem still_note {n : Note} (hn : (Fact.note n).isQuiet) : Still s (s.note n) :=
  (unheard_note hn).still

/-- To call a collaborator that can only do deeds leaves the connection alone. -/
theorem still_consult (host : Host W) {α : Type} {c : Call} (hc : (Fact.call c).isQuiet)
    (r : Reaction Deed α W) : Still s (s.consult host c r) :=
  ((unheard_record hc).trans (unheard_consult host c r)).still

end System

end Supervision
