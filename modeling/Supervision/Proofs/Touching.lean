import Mathlib.Logic.Relation
import Supervision.Proofs.Frame

/-!
# What callers and collaborators touch

All that can be done to a supervisor from outside, between its steps or while it calls a
collaborator, comes down to a few small changes (`Touch`): something is written down, a command is
posted, a caller takes a ticket, handles and calls come and go, a token is drawn, the pending
events or the world change, or a session leaves the slot. `Touched s t` is any sequence of them.

So what each of these changes keeps is kept by whatever callers and collaborators do
(`Touched.induct`), and their functions are opened once, here. Three such facts are read off at
once: the loop's own fields stand, new commands go behind those that wait, and while nobody holds
on to the supervisor no command is posted and nobody comes to hold on to it.
-/

namespace Supervision

variable {W : Type} {host : Host W} {s t u : System W}

/-! ## Small changes -/

namespace Fact

/-- Facts that are written down of what callers do, apart from what is sent to a session. -/
def isHearsay : Fact → Bool
  | .told .. | .call (.metadata _) | .note (.deferred _) | .note (.dispatched ..) => true
  | .note (.dispatchFailed ..) | .note (.metadataFailed _) => true
  | .note (.commandDropped _) | .note (.reportDropped _) | .note .alreadyShutDown => true
  | _ => false

/-- Facts that are written down of what callers do. -/
def isOutside : Fact → Bool
  | .call (.dispatch ..) => true
  | f => f.isHearsay

/-- All hearsay is written down of what callers do. -/
theorem isOutside_of_isHearsay {f : Fact} (h : f.isHearsay = true) : f.isOutside = true := by
  unfold isOutside
  split
  · rfl
  · exact h

end Fact

/-- Commands that callers and collaborators post without a ticket. -/
def Command.isMail : Command → Bool
  | .retryElapsed _ | .barrier _ => false
  | _ => true

/-- The smallest changes that callers and collaborators make. -/
inductive Touch (s : System W) : System W → Prop
  | wrote {f : Fact} (hf : f.isHearsay = true) : Touch s (s.record f)
  /-- A caller's event went to the session in the slot. -/
  | sent {x : Session} {e : LifecycleEvent} {a : Except Error Unit} (hslot : s.slot = some x) :
      Touch s (s.record (.call (.dispatch x e a)))
  | posted {c : Command} (hc : c.isMail = true) (ho : s.isOpen = true) (hs : s.isHeld = true) :
      Touch s (s.enqueue c)
  /-- A caller took a ticket and waits. -/
  | queued (ho : s.isOpen = true) (hs : s.isHeld = true) :
      Touch s { s.enqueue (.barrier s.nextTicket) with nextTicket := s.nextTicket + 1 }
  /-- Handles and calls came and went, of those who hold on to the supervisor. -/
  | held {handles calling : Nat} (h : handles ≠ 0 ∨ calling ≠ 0 → s.isHeld = true) :
      Touch s { s with handles := handles, calling := calling }
  | drew : Touch s { s with nextToken := s.nextToken + 1 }
  | altered {p : Pending} {w : W} : Touch s { s with pending := p, world := w }
  | vacated : Touch s s.vacate

/-- Small changes of callers and collaborators, one after another. -/
def Touched : System W → System W → Prop := Relation.ReflTransGen Touch

namespace Touched

/-- What each small change keeps is kept. -/
theorem induct {motive : System W → Prop} (h : Touched s t) (hs : motive s)
    (touch : ∀ s t, Touch s t → motive s → motive t) : motive t := by
  induction h with
  | refl => exact hs
  | tail _ h ih => exact touch _ _ h ih

theorem touch (h : Touch s t) : Touched s t := Relation.ReflTransGen.single h

theorem trans (h : Touched s t) (h' : Touched t u) : Touched s u := Relation.ReflTransGen.trans h h'

theorem tail (h : Touched s t) (h' : Touch t u) : Touched s u := Relation.ReflTransGen.tail h h'

end Touched

/-! ## Deeds -/

namespace System

theorem isHeld_of_handles_ne (h : s.handles ≠ 0) : s.isHeld = true := by simp [isHeld, h]

theorem isHeld_of_calling_ne (h : s.calling ≠ 0) : s.isHeld = true := by simp [isHeld, h]

/-- While somebody holds on to the supervisor, a command that is mail may be posted. -/
theorem touched_submit {c : Command} (hc : c.isMail = true) (hs : s.isHeld = true) :
    Touched s (s.submit c) := by
  unfold submit
  split
  · exact .touch (.posted hc ‹_› hs)
  · exact .touch (.wrote rfl)

/-- A report may be posted at any time, since it is dropped if nobody does. -/
theorem touched_notify {c : Command} (hc : c.isMail = true) : Touched s (s.notify c) := by
  unfold notify
  split
  · exact .touch (.wrote rfl)
  · rename_i hs
    split
    · exact .touch (.posted hc ‹_› (by simpa using hs))
    · exact .refl

/-- Who holds on to the supervisor starts a call. -/
theorem touched_enter (hs : s.isHeld = true) : Touched s s.enter := .touch (.held fun _ => hs)

theorem touched_leave (s : System W) (count : Nat) : Touched s (s.leave count) := by
  refine .touch (.held fun h => ?_)
  rcases h with h | h
  · exact isHeld_of_handles_ne h
  · exact isHeld_of_calling_ne (by omega)

/-- All that a caller may ask for is mail. -/
theorem touched_ask (s : System W) (r : Request) : Touched s (s.ask r) := by
  unfold ask
  split
  · exact .refl
  · rename_i hs
    have hheld := isHeld_of_handles_ne hs
    cases r with
    | setEnabled b => exact touched_submit rfl hheld
    | flush => exact touched_submit rfl hheld
    | setListener l => exact touched_submit rfl hheld
    | settle =>
      simp only
      split
      · exact (Touched.touch (.queued ‹_› hheld)).trans (touched_enter hheld)
      · exact .refl
    | shutdown =>
      simp only
      split
      · exact (Touched.touch (.posted rfl ‹_› hheld)).trans (touched_enter hheld)
      · exact .touch (.wrote rfl)

theorem touched_lookUp (host : Host W) (s : System W) : Touched s (s.lookUp host) := by
  have h : ∀ w, Touched s (s.lookedUp (.metadata s.extension) w) := fun _ =>
    (Touched.touch (.wrote rfl)).tail .altered
  unfold lookUp
  simp only
  split
  · exact h _
  · exact (h _).tail (.wrote rfl)

/-- A deed amounts to small changes. -/
theorem touched_perform (host : Host W) (s : System W) (d : Deed) :
    Touched s (s.perform host d) := by
  cases d with
  | ask r => exact touched_ask s r
  | report r => exact touched_notify (by cases r <;> rfl)
  | lookUp =>
    simp only [perform]
    split
    · exact .refl
    · exact touched_lookUp host s
  | clone =>
    simp only [perform]
    split
    · exact .refl
    · exact .touch (.held fun _ => isHeld_of_handles_ne ‹_›)
  | drop =>
    refine .touch (.held fun h => ?_)
    rcases h with h | h
    · exact isHeld_of_handles_ne (by omega)
    · exact isHeld_of_calling_ne h
  | drawToken => exact .touch .drew

/-- After a collaborator's call is written down, it only touches the supervisor. -/
theorem touched_consult (host : Host W) (s : System W) {α : Type} (c : Call)
    (r : Reaction Deed α W) : Touched (s.record (.call c)) (s.consult host c r) := by
  have h : Touched (s.record (.call c)) { s.record (.call c) with world := r.world } :=
    .touch .altered
  exact List.foldlRecOn r.during (perform host) h fun t ht d _ =>
    ht.trans (touched_perform host t d)

/-! ## Callers in the middle of a call -/

/-- To post a command neither begins nor ends a call. -/
theorem calling_submit (s : System W) (c : Command) : (s.submit c).calling = s.calling := by
  unfold submit
  split <;> rfl

theorem calling_notify (s : System W) (c : Command) : (s.notify c).calling = s.calling := by
  unfold notify
  split
  · rfl
  · split <;> rfl

/-- Nor does a lookup of the metadata. -/
theorem calling_lookUp (host : Host W) (s : System W) : (s.lookUp host).calling = s.calling := by
  unfold lookUp
  simp only
  split <;> rfl

/-- No deed ends somebody's call. -/
theorem calling_le_perform (host : Host W) (s : System W) (d : Deed) :
    s.calling ≤ (s.perform host d).calling := by
  cases d with
  | ask r =>
    simp only [perform, ask]
    split
    · exact Nat.le_refl _
    · cases r with
      | settle => simp only; split <;> simp [enter, enqueue]
      | shutdown => simp only; split <;> simp [enter, enqueue, note, record]
      | _ => exact Nat.le_of_eq (calling_submit s _).symm
  | report r => exact Nat.le_of_eq (calling_notify s _).symm
  | lookUp =>
    simp only [perform]
    split
    · exact Nat.le_refl _
    · exact Nat.le_of_eq (calling_lookUp host s).symm
  | clone =>
    simp only [perform]
    split <;> exact Nat.le_refl _
  | drop => exact Nat.le_refl _
  | drawToken => exact Nat.le_refl _

/-- No call that was in progress is over when a collaborator is done. -/
theorem calling_le_consult (host : Host W) (s : System W) {α : Type} (c : Call)
    (r : Reaction Deed α W) : s.calling ≤ (s.consult host c r).calling :=
  List.foldlRecOn (b := { s.record (.call c) with world := r.world })
    (motive := fun t => s.calling ≤ t.calling) r.during (perform host) (Nat.le_refl _)
    fun t h d _ => Nat.le_trans h (calling_le_perform host t d)

/-! ## Telling -/

/-- Sending an event is written down with its answer, and then only touches the supervisor. -/
theorem exists_touched_forward (host : Host W) (s : System W) (x : Session) (e : LifecycleEvent) :
    s.calling ≤ (s.forward host x e).1.calling ∧ ∃ a,
      Touched (s.record (.call (.dispatch x e a))) (s.forward host x e).1 := by
  have hcalling := fun a => calling_le_consult host s (.dispatch x e a)
    (host.dispatch s.world x.transport e)
  have h := fun a => touched_consult host s (.dispatch x e a)
    (host.dispatch s.world x.transport e)
  simp only [forward]
  split
  · exact ⟨hcalling _, _, (h _).tail (.wrote rfl)⟩
  · exact ⟨hcalling _, _, (h _).tail (.wrote rfl)⟩

/-- A caller that delivers an event has entered its call. -/
theorem touched_deliver (host : Host W) (e : LifecycleEvent) (hs : s.calling ≠ 0) :
    Touched s (s.deliver host e) := by
  have defers : ∀ (t : System W) (token : Option BindToken), t.calling ≠ 0 → Touched t
      (((t.defer e).note (.deferred e)).submit (.deathCheck token)) := by
    intro t token ht
    have h : Touched t ((t.defer e).note (.deferred e)) :=
      (Touched.touch (.altered (w := t.world))).tail (.wrote rfl)
    exact h.trans (touched_submit rfl (isHeld_of_calling_ne ht))
  unfold deliver
  split
  · exact defers s none hs
  · rename_i x hx
    obtain ⟨hcalling, a, h⟩ := exists_touched_forward host s x e
    have hsent := (Touched.touch (.sent (e := e) (a := a) hx)).trans h
    split <;> rename_i heq <;> rw [heq] at hsent hcalling
    · exact hsent
    · rename_i t
      exact (hsent.tail .vacated).trans (defers t.vacate _ (by
        have h : s.calling ≤ t.calling := hcalling
        change t.calling ≠ 0
        omega))

/-- So has one that asks for listening to start or to stop. -/
theorem touched_setListening (host : Host W) (level : Bool) (hs : s.calling ≠ 0) :
    Touched s (s.setListening host level) := by
  have hkept : Touched s { s with pending := s.pending.setListening level } :=
    .touch (.altered (w := s.world))
  unfold setListening
  simp only
  split
  · exact hkept
  · rename_i x hx
    obtain ⟨hcalling, a, h⟩ := exists_touched_forward host
      { s with pending := s.pending.setListening level } x (.ofLevel level)
    have hsent := (hkept.tail (.sent (e := .ofLevel level) (a := a) hx)).trans h
    split <;> rename_i heq <;> rw [heq] at hsent hcalling
    · exact hsent
    · rename_i t
      refine (hsent.tail .vacated).trans (touched_submit (s := t.vacate) rfl ?_)
      exact isHeld_of_calling_ne (s := t.vacate) (by
        have h : s.calling ≤ t.calling := hcalling
        change t.calling ≠ 0
        omega)

/-- What a caller tells the supervisor amounts to small changes. -/
theorem touched_tell (host : Host W) (s : System W) (e : LifecycleEvent) :
    Touched s (s.tell host e) := by
  have hconvey : ∀ t : System W, t.calling ≠ 0 → Touched t (t.convey host e) := by
    intro t ht
    unfold convey
    split
    · exact touched_setListening host _ ht
    · exact touched_deliver host e ht
  unfold tell
  split
  · exact .refl
  · have hheld := isHeld_of_handles_ne ‹s.handles ≠ 0›
    have hentered : Touched s (s.record (.told e s.slot)).enter :=
      (Touched.touch (.wrote rfl)).trans (touched_enter hheld)
    exact (hentered.trans (hconvey _ (Nat.succ_ne_zero _))).trans (touched_leave _ 1)

/-- So does all that may be done at any time. -/
theorem touched_act (host : Host W) (s : System W) (a : Act) : Touched s (s.act host a) := by
  cases a with
  | deed d => exact touched_perform host s d
  | tell e => exact touched_tell host s e

/-- After the call of a collaborator that can do all that callers can is written down, it only
touches the supervisor. -/
theorem touched_consultFreely (host : Host W) (s : System W) {α : Type} (c : Call)
    (r : Reaction Act α W) : Touched (s.record (.call c)) (s.consultFreely host c r) := by
  have h : Touched (s.record (.call c)) { s.record (.call c) with world := r.world } :=
    .touch .altered
  exact List.foldlRecOn r.during (act host) h fun t ht a _ => ht.trans (touched_act host t a)

end System

end Supervision
