import Supervision.Proofs.Moves
import Supervision.Proofs.Touching

/-!
# What happens without the loop

The loop's *books* are the facts about what it asks of the binder and of the notification
center, about the resets of its retry counter, and about the statuses it publishes
(`Fact.isEntry`). Callers and collaborators make no entry: whatever they do, between the loop's
steps or while it calls them, the loop's own state stands and so do its books. `Offstage s t` says
so of a supervisor and what became of it.
Replays, lookups and reports are offstage as well, since they only tell and ask.

Each step of a run is offstage, or starts the loop, or is the processing of the command that
`System.command?` names, or stops the loop for good (`System.turned_step`).
-/

namespace Supervision

variable {W : Type}

/-! ## Entries -/

namespace Fact

/-- The loop forgets how many binds it tried: one of them led to a connection, the connection
was ended for a caller or after a flush, or an update allows binds again. -/
def isReset : Fact → Bool
  | .note (.connected _) | .note .unbinding | .note .bindsAllowedAgain => true
  | _ => false

/-- Facts that stand in the loop's books. -/
def isEntry : Fact → Bool
  | .call (.bind ..) | .call (.unbind ..) | .call (.subscribe ..) | .call (.unsubscribe ..) => true
  | .published _ => true
  | f => f.isReset

/-- Facts about commands that came too late. -/
def isLate : Fact → Bool
  | .note (.commandDropped _) | .note (.reportDropped _) | .note .alreadyShutDown => true
  | _ => false

/-- Facts about commands that came too late, and lookups of the metadata: all that deeds
write down. -/
def isMinor : Fact → Bool
  | .note (.commandDropped _) | .note (.reportDropped _) | .note .alreadyShutDown => true
  | .note (.metadataFailed _) | .call (.metadata _) => true
  | _ => false

/-- What comes too late is minor. -/
theorem isMinor_of_isLate {f : Fact} (h : f.isLate = true) : f.isMinor = true := by
  unfold isLate at h
  split at h <;> first | rfl | simp at h

/-- That a command came too late is no entry in the books. -/
theorem isEntry_of_isLate {f : Fact} (h : f.isLate = true) : f.isEntry = false := by
  unfold isLate at h
  split at h <;> first | rfl | simp at h

/-- Nor is what callers and collaborators hear. -/
theorem isEntry_of_isHearsay {f : Fact} (h : f.isHearsay = true) : f.isEntry = false := by
  unfold isHearsay at h
  split at h <;> first | rfl | simp at h

theorem isEntry_of_isReset {f : Fact} (h : f.isReset = true) : f.isEntry = true := by
  unfold isEntry
  split <;> first | rfl | exact h

end Fact

/-- The loop's own state was left alone, and no entry was made in its books. -/
structure Offstage (s t : System W) : Prop extends Aside s t where
  journal : s.journal.GrowsBy (·.isEntry = false) t.journal

namespace Offstage

theorem refl (s : System W) : Offstage s s := ⟨.refl s, .refl _⟩

theorem trans {s t u : System W} (h : Offstage s t) (h' : Offstage t u) : Offstage s u :=
  ⟨h.toAside.trans h'.toAside, h.journal.trans h'.journal⟩

end Offstage

/-- Small changes of callers and collaborators leave the loop and its books alone. -/
theorem Touch.offstage {s t : System W} (h : Touch s t) : Offstage s t := by
  cases h with
  | wrote hf => exact { Offstage.refl s with journal := .cons (Fact.isEntry_of_isHearsay hf) }
  | sent => exact { Offstage.refl s with journal := .cons rfl }
  | posted => exact { Offstage.refl s with inbox := List.prefix_append .. }
  | queued => exact { Offstage.refl s with inbox := List.prefix_append .. }
  | drew => exact { Offstage.refl s with nextToken := Nat.le_succ _ }
  | _ => exact { Offstage.refl s with }

/-- What callers and collaborators do is offstage. -/
theorem Touched.offstage {s t : System W} (h : Touched s t) : Offstage s t :=
  h.induct (motive := Offstage s) (.refl s) fun _ _ h hs => hs.trans h.offstage

namespace System

variable {host : Host W} {s : System W}

/-! ## Deeds -/

/-- A command posted through a handle is noted at most. -/
theorem late_submit (s : System W) (c : Command) :
    s.journal.GrowsBy (·.isLate) (s.submit c).journal := by
  unfold submit
  split
  · exact .refl _
  · exact .cons rfl

theorem late_notify (s : System W) (c : Command) :
    s.journal.GrowsBy (·.isLate) (s.notify c).journal := by
  unfold notify
  split
  · exact .cons rfl
  · split
    · exact .refl _
    · exact .refl _

theorem late_ask (s : System W) (r : Request) :
    s.journal.GrowsBy (·.isLate) (s.ask r).journal := by
  unfold ask
  split
  · exact .refl _
  · cases r with
    | settle =>
      simp only
      split
      · exact .refl _
      · exact .refl _
    | shutdown =>
      simp only
      split
      · exact .refl _
      · exact .cons rfl
    | _ => exact late_submit s _

/-- A lookup of the metadata is no entry, nor is what is said of its failure. -/
theorem minor_lookUp (host : Host W) (s : System W) :
    s.journal.GrowsBy (·.isMinor) (s.lookUp host).journal := by
  have h : ∀ w, s.journal.GrowsBy (·.isMinor) (s.lookedUp (.metadata s.extension) w).journal :=
    fun w => .cons rfl
  unfold lookUp
  simp only
  split
  · exact h _
  · exact (h _).trans (.cons rfl)

/-- A deed of a collaborator leaves minor facts. -/
theorem minor_perform (host : Host W) (s : System W) (d : Deed) :
    s.journal.GrowsBy (·.isMinor) (s.perform host d).journal := by
  cases d with
  | ask r => exact (late_ask s r).imp fun _ => Fact.isMinor_of_isLate
  | report r => exact (late_notify s _).imp fun _ => Fact.isMinor_of_isLate
  | lookUp =>
    simp only [perform]
    split
    · exact .refl _
    · exact minor_lookUp host s
  | clone =>
    simp only [perform]
    split
    · exact .refl _
    · exact .refl _
  | drop => exact .refl _
  | drawToken => exact .refl _

/-- After a collaborator's call is written down, only minor facts are. -/
theorem minor_consult (host : Host W) (s : System W) {α : Type} (c : Call)
    (r : Reaction Deed α W) :
    (s.record (.call c)).journal.GrowsBy (·.isMinor) (s.consult host c r).journal :=
  List.foldlRecOn (b := { s.record (.call c) with world := r.world })
    (motive := fun t => (s.record (.call c)).journal.GrowsBy (·.isMinor) t.journal)
    r.during (perform host) (.refl _) fun t h d _ => h.trans (minor_perform host t d)

theorem offstage_record {f : Fact} (hf : f.isEntry = false) : Offstage s (s.record f) :=
  { Offstage.refl s with journal := .cons hf }

theorem offstage_note {n : Note} (hn : (Fact.note n).isEntry = false) : Offstage s (s.note n) :=
  offstage_record hn

/-! ## Calls and replays -/

/-- After a collaborator's call is written down, what happens is offstage. -/
theorem offstage_consult (host : Host W) (s : System W) {α : Type} (c : Call)
    (r : Reaction Deed α W) : Offstage (s.record (.call c)) (s.consult host c r) :=
  (touched_consult host s c r).offstage

/-- After the call of a collaborator that can do all that callers can is written down, what
happens is offstage. -/
theorem offstage_consultFreely (host : Host W) (s : System W) {α : Type} (c : Call)
    (r : Reaction Act α W) : Offstage (s.record (.call c)) (s.consultFreely host c r) :=
  (touched_consultFreely host s c r).offstage

/-- To forward an event is to call the session. -/
theorem offstage_forward (host : Host W) (s : System W) (x : Session) (e : LifecycleEvent) :
    Offstage s (s.forward host x e).1 := by
  obtain ⟨-, a, h⟩ := exists_touched_forward host s x e
  exact (offstage_record rfl).trans h.offstage

/-- An item of a replay is sent, deferred or discarded. -/
theorem offstage_replayItem (host : Host W) (x : Session) (listening : Bool) (s : System W)
    (o : Outcome) (i : Replay.Item) :
    Offstage s (replayItem host x listening (s, o) i).1 := by
  cases i with
  | discard k => exact offstage_note rfl
  | send e =>
    have hannounce : Offstage s (s.announce x listening e) := by
      cases e with
      | stopListening => exact (offstage_note rfl).trans (offstage_note rfl)
      | removed =>
        simp only [announce]
        split
        · exact .refl s
        · exact offstage_note rfl
      | _ => exact offstage_note rfl
    have h : Offstage s ((s.announce x listening e).lower e) := by
      rw [lower_eq]
      exact { hannounce with }
    have hforward := h.trans (offstage_forward host _ x e)
    simp only [replayItem, replayEvent]
    split
    · exact { h with }
    · split <;> rename_i heq <;> rw [heq] at hforward
      · exact hforward
      · exact { hforward with }

/-- While the pending events are replayed, the books stand. -/
theorem offstage_replay (host : Host W) (s : System W) (x : Session) :
    Offstage s (s.replay host x).1 := by
  have h : Offstage s { s.record (.planned x (Replay.plan s.pending.snapshot s.pending.listening))
      with pending := s.pending.drained } := { Offstage.refl s with journal := .cons rfl }
  simp only [replay]
  exact List.foldlRecOn (motive := fun so : System W × Outcome => Offstage s so.1) _ _ h
    fun so ht i _ => ht.trans (offstage_replayItem host x _ so.1 so.2 i)

/-! ## Lookups and reports -/

/-- The registry is asked for its answer alone. -/
theorem offstage_resolve (host : Host W) (s : System W) : Offstage s (s.resolve host).1 := by
  have h : ∀ (t : System W) (c : Call) w, (Fact.call c).isEntry = false →
      Offstage t (t.lookedUp c w) := fun t _ _ hc =>
    { Offstage.refl t with journal := .cons hc }
  simp only [resolve]
  split
  · exact h _ _ _ rfl
  · exact (h _ _ _ rfl).trans (h _ _ _ rfl)

theorem offstage_linkToDeath (host : Host W) (s : System W) (x : Session) :
    Offstage s (s.linkToDeath host x) := by
  have h := fun a => (offstage_record (s := s) (f := .call (.linkToDeath x a)) rfl).trans
    (offstage_consult host s _ (host.linkToDeath s.world x))
  simp only [linkToDeath]
  split
  · exact h _
  · exact (h _).trans (offstage_note rfl)

/-- A change of the host is announced to the listener alone. -/
theorem offstage_announceChange (host : Host W) (s : System W) :
    Offstage s (s.announceChange host) := by
  unfold announceChange
  split
  · exact .refl s
  · exact (offstage_record rfl).trans (offstage_consultFreely host s _ _)

end System

/-! ## Steps -/

namespace System

/-- The command that a step processes, if it processes one. -/
def command? (s : System W) : Step W → Option Command
  | .turn => if s.phase = .running then s.inbox.head? else none
  | _ => none

/-- The commands that a run processes, in order. -/
def commands (host : Host W) (s : System W) : List (Step W) → List Command
  | [] => []
  | a :: as => (s.command? a).toList ++ (s.step host a).commands host as

/-- What comes of a step that processes `c?` : `Turned host s c? t` says that `s` became `t`. -/
inductive Turned (host : Host W) (s : System W) : Option Command → System W → Prop
  | offstage {t : System W} (h : Offstage s t) : Turned host s none t
  | started (hs : s.phase = .ready) :
      Turned host s none { s.note .loopStarted with phase := .running }
  | processed {c : Command} {rest : List Command} (hs : s.phase = .running)
      (hi : s.inbox = c :: rest) (hc : c ≠ .shutdown) :
      Turned host s (some c) ({ s with inbox := rest }.process host c)
  | shutDown {rest : List Command} (hs : s.phase = .running) (hi : s.inbox = .shutdown :: rest) :
      Turned host s (some .shutdown)
        (({ s with inbox := rest }.note (.received .shutdown)).shutDown host)
  /-- Nobody holds on to the supervisor, and no command is left. -/
  | closed (hs : s.phase = .running) (hi : s.inbox = []) : Turned host s none (s.close host)

/-- Each step obeys a command, starts or stops the loop, or leaves the loop alone. -/
theorem turned_step (host : Host W) (s : System W) (a : Step W) :
    Turned host s (s.command? a) (s.step host a) := by
  cases a with
  | act a => exact .offstage (touched_act host s a).offstage
  | turn =>
    have waiting (h : s.phase ≠ .running) : s.command? .turn = none := if_neg h
    have running (h : s.phase = .running) : s.command? .turn = s.inbox.head? := if_pos h
    simp only [step, turn]
    split
    · rename_i hs
      rw [waiting (by simp [hs])]
      exact .started hs
    · rename_i hs
      rw [waiting (by simp [hs])]
      exact .offstage (.refl s)
    · rename_i hs
      rw [running hs]
      split
      · rename_i c rest hi
        rw [hi, List.head?_cons]
        by_cases hc : c = .shutdown
        · simp only [hc, process, obey, if_true]
          exact .shutDown hs (hc ▸ hi)
        · exact .processed hs hi hc
      · rename_i hi
        rw [hi, List.head?_nil]
        split
        · exact .offstage (.refl s)
        · exact .closed hs hi
  | fire t =>
    simp only [command?, step]
    split
    · have h := unheard_notify (s := { s with timers := s.timers.erase t })
        (.retryElapsed t.generation)
      have hj := late_notify { s with timers := s.timers.erase t } (.retryElapsed t.generation)
      exact .offstage { h.toAside with journal := hj.imp fun _ => Fact.isEntry_of_isLate }
    · exact .offstage (.refl s)
  | wait span => exact .offstage { Offstage.refl s with }
  | leave count => exact .offstage { Offstage.refl s with }
  | drift w => exact .offstage { Offstage.refl s with }

/-- A step that processes a command other than to stop takes it out of the inbox, acts on it and
publishes the status. -/
theorem exists_step_eq (host : Host W) {s : System W} {a : Step W} {c : Command}
    (h : s.command? a = some c) (hc : c ≠ .shutdown) :
    ∃ rest, s.phase = .running ∧ s.inbox = c :: rest ∧
      s.step host a = (({ s with inbox := rest }.note (.received c)).obey host c).publish := by
  have ht := turned_step host s a
  rw [h] at ht
  generalize s.step host a = t at ht ⊢
  cases ht with
  | @processed _ rest hs hi =>
    refine ⟨rest, hs, hi, ?_⟩
    simp only [process, if_neg hc]
  | shutDown => exact absurd rfl hc

end System

end Supervision
