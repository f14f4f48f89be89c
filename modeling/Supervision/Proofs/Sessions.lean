import Supervision.Proofs.History
import Supervision.Proofs.Publication

/-!
# What a session sees

A session is known by the token of the bind it came of. It is sent the events of its replay
plan, until it refuses one; if it accepts them all it is put into the slot, and is sent what
callers tell the extension while it is there, until it refuses one. `Course` is this order.
It says what the journal has on a token whenever the loop is between two steps, and
`dispatches_follow_course` is what comes of it.

Who is told what is read off the journal: the plan of the replay, what callers told the
extension with the session in the slot, and what was sent to it. That nothing is sent to a
session any more rests on two invariants: a token leads to one plan only, since it is given out
once and is left for good (`Attended`), and nothing is sent after a farewell (`Served`).
-/

namespace Supervision

/-! ## What the journal has on a token -/

namespace Fact

/-- The event sent to the token's session, and whether it was accepted. -/
def dispatch? (token : BindToken) : Fact → Option (LifecycleEvent × Bool)
  | .call (.dispatch x e a) => if x.token = token then some (e, a.isOk) else none
  | _ => none

/-- The event a caller told the extension while the token's session was in the slot. -/
def telling? (token : BindToken) : Fact → Option LifecycleEvent
  | .told e (some x) => if x.token = token then some e else none
  | _ => none

/-- The plan by which the replay to the token's session began. -/
def plan? (token : BindToken) : Fact → Option (List Replay.Item)
  | .planned x plan => if x.token = token then some plan else none
  | _ => none

/-- The token's session is let go of: it died, or no session is wanted any more. -/
def isFarewellTo (token : BindToken) : Fact → Bool
  | .note .unbinding | .note .destroying => true
  | .note (.sessionDied t _) => t = token
  | _ => false

variable {token : BindToken} {f : Fact}

theorem dispatch?_eq_none (h : f.isEventful = false) : f.dispatch? token = none := by
  unfold dispatch?
  split
  · cases h
  · rfl

theorem telling?_eq_none (h : f.isEventful = false) : f.telling? token = none := by
  unfold telling?
  split
  · cases h
  · rfl

theorem plan?_eq_none (h : f.isEventful = false) : f.plan? token = none := by
  unfold plan?
  split
  · cases h
  · rfl

/-- What is no farewell is none to the token. -/
theorem isFarewellTo_eq_false (h : f.isFarewell = false) : f.isFarewellTo token = false := by
  unfold isFarewellTo
  split <;> first | rfl | cases h

/-- The fact says nothing of the token's session. -/
structure Elsewhere (token : BindToken) (f : Fact) : Prop where
  dispatch : f.dispatch? token = none
  telling : f.telling? token = none
  plan : f.plan? token = none

theorem elsewhere_of_uneventful (h : f.isEventful = false) : f.Elsewhere token :=
  ⟨dispatch?_eq_none h, telling?_eq_none h, plan?_eq_none h⟩

/-- Nor does the fact announce the end of the token's session. -/
structure Foreign (token : BindToken) (f : Fact) : Prop extends Elsewhere token f where
  farewell : f.isFarewellTo token = false

/-- What is quiet concerns no session. -/
theorem foreign_of_quiet (h : f.isQuiet) : f.Foreign token :=
  ⟨elsewhere_of_uneventful (isEventful_eq_false h), isFarewellTo_eq_false (isFarewell_eq_false h)⟩

end Fact

namespace Journal.GrowsBy

variable {token : BindToken} {j j' : Journal}

theorem foreign (h : j.GrowsBy (·.isQuiet) j') : j.GrowsBy (Fact.Foreign token) j' :=
  h.imp fun _ => Fact.foreign_of_quiet

theorem elsewhere (h : j.GrowsBy (Fact.Foreign token) j') : j.GrowsBy (Fact.Elsewhere token) j' :=
  h.imp fun _ hf => hf.toElsewhere

end Journal.GrowsBy

namespace Journal

variable (token : BindToken) (j : Journal)

/-- The plans of the replays to the token's session. -/
def plans : List (List Replay.Item) := j.chronicle (Fact.plan? token)

/-- The events that the plans of the replays to the token's session send. -/
def sends : List LifecycleEvent := (j.plans token).flatten.filterMap Replay.Item.event?

/-- The events that callers told the extension while the token's session was in the slot. -/
def tellings : List LifecycleEvent := j.chronicle (Fact.telling? token)

/-- The events sent to the token's session, each with whether it was accepted. -/
def dispatches : List (LifecycleEvent × Bool) := j.chronicle (Fact.dispatch? token)

/-- The token's session, once there was one, was let go of. -/
def Parted : Prop :=
  j.Since (fun f older => f.isFarewellTo token = true ∧ older.plans token ≠ [])
    fun _ _ => False

/-- Nothing was sent to the token's session after it was let go of. -/
def Silent : Prop := j.Always fun f older => older.Parted token → f.dispatch? token = none

variable {token j} {r : Record} {j' : Journal}

theorem plans_cons : plans token (r :: j) = j.plans token ++ (r.fact.plan? token).toList :=
  chronicle_cons _ r j

theorem tellings_cons :
    tellings token (r :: j) = j.tellings token ++ (r.fact.telling? token).toList :=
  chronicle_cons _ r j

/-- A fact adds the event that it says was sent, if it is one of those. -/
theorem dispatches_cons :
    dispatches token (r :: j) = j.dispatches token ++ (r.fact.dispatch? token).toList :=
  chronicle_cons _ r j

/-- A session is let go of with a farewell, once there was a plan for it. -/
theorem parted_cons : Parted token (r :: j) ↔
    r.fact.isFarewellTo token = true ∧ j.plans token ≠ [] ∨ j.Parted token := by
  rw [Parted, since_cons]
  simp [Parted]

/-- The silence is kept if nothing is sent to a session that was let go of. -/
theorem silent_cons : Silent token (r :: j) ↔
    (j.Parted token → r.fact.dispatch? token = none) ∧ j.Silent token :=
  always_cons

/-- Only a session for which there was a plan was let go of. -/
theorem not_parted_of_plans (h : j.plans token = []) : ¬j.Parted token := by
  induction j with
  | nil => exact not_since_nil
  | cons r j ih =>
    have hj : plans token j = [] := (List.append_eq_nil_iff.1 (plans_cons.symm.trans h)).1
    rw [parted_cons]
    rintro (⟨-, hp⟩ | hp)
    · exact hp hj
    · exact ih hj hp

/-- What a journal has on the token is the same as that of another. -/
structure SameOf (token : BindToken) (j j' : Journal) : Prop where
  plans : j'.plans token = j.plans token
  tellings : j'.tellings token = j.tellings token
  dispatches : j'.dispatches token = j.dispatches token
  silent : j.Silent token → j'.Silent token

/-- Facts that say nothing of the token change nothing that the journal has on it. -/
theorem sameOf_of_growsBy (h : j.GrowsBy (Fact.Elsewhere token) j') : SameOf token j j' where
  plans := chronicle_of_growsBy h fun _ hx => hx.plan
  tellings := chronicle_of_growsBy h fun _ hx => hx.telling
  dispatches := chronicle_of_growsBy h fun _ hx => hx.dispatch
  silent hs := h.induct hs fun _ _ hr hj => silent_cons.2 ⟨fun _ => hr.dispatch, hj⟩

/-- Without a farewell, nobody is let go of. -/
theorem parted_of_growsBy (h : j.GrowsBy (·.isFarewellTo token = false) j')
    (hp : j'.Parted token) : j.Parted token := by
  revert hp
  refine h.induct (motive := fun j' => j'.Parted token → j.Parted token) id fun r i hr ih hp => ?_
  rcases parted_cons.1 hp with ⟨hf, -⟩ | hp
  · exact absurd hf (by simp [hr])
  · exact ih hp

theorem SameOf.sends (h : SameOf token j j') : j'.sends token = j.sends token := by
  rw [Journal.sends, h.plans]
  rfl

end Journal

/-! ## The course of a session -/

/-- The order in which a session is sent the events of its plan and what callers tell: all of
it was accepted, or the last of it was refused, which leaves callers out if the plan was not
through. -/
inductive Course (sends tellings : List LifecycleEvent) : List (LifecycleEvent × Bool) → Prop
  | accepted : Course sends tellings ((sends ++ tellings).map (·, true))
  | refused {done : List LifecycleEvent} {e : LifecycleEvent}
      (h : done ++ [e] = sends ++ tellings ∨ tellings = [] ∧ done ++ [e] <+: sends) :
    Course sends tellings (done.map (·, true) ++ [(e, false)])

/-- What the journal has on a token when the loop is between two steps. -/
structure Served (token : BindToken) (j : Journal) : Prop where
  unplanned : j.plans token = [] → j.tellings token = [] ∧ j.dispatches token = []
  single : (j.plans token).length ≤ 1
  course : Course (j.sends token) (j.tellings token) (j.dispatches token)
  silent : j.Silent token

/-- What the journal has on a token whose session is in the slot. -/
structure Live (token : BindToken) (j : Journal) : Prop where
  planned : j.plans token ≠ []
  accepted : j.dispatches token = (j.sends token ++ j.tellings token).map (·, true)
  present : ¬j.Parted token

variable {token : BindToken} {j j' : Journal}

/-- At the start there is nothing on any token. -/
theorem Served.empty (token : BindToken) : Served token [] where
  unplanned _ := ⟨rfl, rfl⟩
  single := Nat.zero_le 1
  course := .accepted
  silent := Journal.always_nil

/-- Facts that say nothing of the token keep its course. -/
theorem Served.of_growsBy (h : Served token j) (hj : j.GrowsBy (Fact.Elsewhere token) j') :
    Served token j' := by
  have hs := Journal.sameOf_of_growsBy hj
  refine ⟨?_, hs.plans ▸ h.single, ?_, hs.silent h.silent⟩
  · rw [hs.plans, hs.tellings, hs.dispatches]
    exact h.unplanned
  · rw [hs.sends, hs.tellings, hs.dispatches]
    exact h.course

/-- A session in the slot stays live while nothing concerns it. -/
theorem Live.of_growsBy (h : Live token j) (hj : j.GrowsBy (Fact.Foreign token) j') :
    Live token j' := by
  have hs := Journal.sameOf_of_growsBy hj.elsewhere
  have hp := Journal.parted_of_growsBy (hj.imp fun _ hf => hf.farewell)
  refine ⟨hs.plans ▸ h.planned, ?_, fun h' => h.present (hp h')⟩
  rw [hs.sends, hs.tellings, hs.dispatches]
  exact h.accepted

/-! ## What callers tell -/

section Telling

variable {x : Session} {e : LifecycleEvent} {error : Error} {time time' : Nat}

/-- A session in the slot that accepts a caller's event stays on course. -/
theorem Live.accept (h : Live x.token j) : Live x.token
    (⟨time', .call (.dispatch x e (.ok ()))⟩ :: ⟨time, .told e (some x)⟩ :: j) where
  planned := by simpa [Journal.plans_cons, Fact.plan?] using h.planned
  accepted := by
    simp [Journal.dispatches_cons, Journal.tellings_cons, Journal.sends, Journal.plans_cons,
      Fact.dispatch?, Fact.telling?, Fact.plan?, h.accepted, Except.isOk, Except.toBool]
  present := by simpa [Journal.parted_cons, Fact.isFarewellTo] using h.present

/-- What the session in the slot accepts is the next event of its course. -/
theorem Served.accept (h : Served x.token j) (hl : Live x.token j) : Served x.token
    (⟨time', .call (.dispatch x e (.ok ()))⟩ :: ⟨time, .told e (some x)⟩ :: j) where
  unplanned hp := absurd hp hl.accept.planned
  single := by simpa [Journal.plans_cons, Fact.plan?] using h.single
  course := by
    rw [hl.accept.accepted]
    exact .accepted
  silent := by
    simpa [Journal.silent_cons, Journal.parted_cons, Fact.isFarewellTo, hl.present] using h.silent

/-- A session in the slot that refuses a caller's event ends its course. -/
theorem Served.refuse (h : Served x.token j) (hl : Live x.token j) : Served x.token
    (⟨time', .call (.dispatch x e (.error error))⟩ :: ⟨time, .told e (some x)⟩ :: j) where
  unplanned hp := absurd (by simpa [Journal.plans_cons, Fact.plan?] using hp) hl.planned
  single := by simpa [Journal.plans_cons, Fact.plan?] using h.single
  course := by
    have h : Course (j.sends x.token) (j.tellings x.token ++ [e])
        ((j.sends x.token ++ j.tellings x.token).map (·, true) ++ [(e, false)]) :=
      .refused (.inl (by simp))
    simpa [Journal.dispatches_cons, Journal.tellings_cons, Journal.sends, Journal.plans_cons,
      Fact.dispatch?, Fact.telling?, Fact.plan?, hl.accepted, Except.isOk, Except.toBool] using h
  silent := by
    simpa [Journal.silent_cons, Journal.parted_cons, Fact.isFarewellTo, hl.present] using h.silent

end Telling

/-! ## Replays -/

/-- What the journal has on a token while what is left of the plan is replayed to its session. -/
structure Midway (token : BindToken) (plan items : List Replay.Item) (failed : Bool)
    (j : Journal) : Prop where
  plans : j.plans token = [plan]
  tellings : j.tellings token = []
  going : failed = false → ∃ done, j.dispatches token = done.map (·, true) ∧
    done ++ items.filterMap Replay.Item.event? = plan.filterMap Replay.Item.event?
  refused : failed = true → ∃ done e, j.dispatches token = done.map (·, true) ++ [(e, false)] ∧
    done ++ [e] <+: plan.filterMap Replay.Item.event?
  silent : j.Silent token
  present : ¬j.Parted token

namespace Midway

variable {W : Type} {s t : System W} {x : Session} {o o' : System.Outcome} {i : Replay.Item}
  {plan items : List Replay.Item} {failed : Bool}

/-- Facts that do not concern the token leave its replay where it is. -/
theorem of_growsBy (h : Midway token plan items failed j)
    (hj : j.GrowsBy (Fact.Foreign token) j') : Midway token plan items failed j' := by
  have hs := Journal.sameOf_of_growsBy hj.elsewhere
  have hp := Journal.parted_of_growsBy (hj.imp fun _ hf => hf.farewell)
  exact {
    plans := hs.plans.trans h.plans
    tellings := hs.tellings.trans h.tellings
    going := fun hf => hs.dispatches ▸ h.going hf
    refused := fun hf => hs.dispatches ▸ h.refused hf
    silent := hs.silent h.silent
    present := fun h' => h.present (hp h') }

/-- What is sent is what the plan says. -/
theorem sends (h : Midway token plan items failed j) :
    j.sends token = plan.filterMap Replay.Item.event? := by
  simp [Journal.sends, h.plans]

/-- A replay that is through, or was refused, leaves the session on its course. -/
theorem served (h : Midway token plan [] failed j) : Served token j where
  unplanned hp := by cases h.plans ▸ hp
  single := by simp [h.plans]
  course := by
    rw [h.tellings, h.sends]
    cases failed with
    | false =>
      obtain ⟨done, hd, hdone⟩ := h.going rfl
      have hc : Course done [] ((done ++ []).map (·, true)) := .accepted
      rw [hd, ← hdone]
      simpa using hc
    | true =>
      obtain ⟨done, e, hd, hdone⟩ := h.refused rfl
      rw [hd]
      exact .refused (.inr ⟨rfl, hdone⟩)
  silent := h.silent

/-- A replay that is through without a refusal leaves the session live. -/
theorem live (h : Midway token plan [] false j) : Live token j where
  planned := by simp [h.plans]
  accepted := by
    obtain ⟨done, hd, hdone⟩ := h.going rfl
    rw [hd, h.tellings, h.sends, ← hdone]
    simp
  present := h.present

theorem of_quiet (h : Midway token plan items failed j) (hj : j.GrowsBy (·.isQuiet) j') :
    Midway token plan items failed j' :=
  h.of_growsBy hj.foreign

/-- What is dropped is not sent. -/
theorem discard {k : EventKind} (h : Midway token plan (.discard k :: items) failed j)
    (time : Nat) (t : BindToken) :
    Midway token plan items failed (⟨time, .note (.dropping t k)⟩ :: j) := by
  have h' := h.of_growsBy (.cons (r := ⟨time, .note (.dropping t k)⟩) ⟨⟨rfl, rfl, rfl⟩, rfl⟩)
  exact { h' with going := h'.going }

/-- A session that has refused an event is sent no more of the plan. -/
theorem keep {e : LifecycleEvent} (h : Midway token plan (.send e :: items) true j) :
    Midway token plan items true j :=
  { h with going := nofun }

/-- An event that is accepted is done. -/
theorem accept {e : LifecycleEvent} (h : Midway x.token plan (.send e :: items) false j)
    (time : Nat) : Midway x.token plan items false
      (⟨time, .call (.dispatch x e (.ok ()))⟩ :: j) where
  plans := by simpa [Journal.plans_cons, Fact.plan?] using h.plans
  tellings := by simpa [Journal.tellings_cons, Fact.telling?] using h.tellings
  going _ := by
    obtain ⟨done, hd, hdone⟩ := h.going rfl
    refine ⟨done ++ [e], ?_, by simpa [Replay.Item.event?] using hdone⟩
    simp [Journal.dispatches_cons, Fact.dispatch?, Except.isOk, Except.toBool, hd]
  refused := nofun
  silent := Journal.silent_cons.2 ⟨fun hp => absurd hp h.present, h.silent⟩
  present := by simpa [Journal.parted_cons, Fact.isFarewellTo] using h.present

/-- The first event that is refused is the last that is sent. -/
theorem refuse {e : LifecycleEvent} (h : Midway x.token plan (.send e :: items) false j)
    (time : Nat) (error : Error) : Midway x.token plan items true
      (⟨time, .call (.dispatch x e (.error error))⟩ :: j) where
  plans := by simpa [Journal.plans_cons, Fact.plan?] using h.plans
  tellings := by simpa [Journal.tellings_cons, Fact.telling?] using h.tellings
  going := nofun
  refused _ := by
    obtain ⟨done, hd, hdone⟩ := h.going rfl
    refine ⟨done, e, ?_, items.filterMap Replay.Item.event?, ?_⟩
    · simp [Journal.dispatches_cons, Fact.dispatch?, Except.isOk, Except.toBool, hd]
    · simpa [Replay.Item.event?] using hdone
  silent := Journal.silent_cons.2 ⟨fun hp => absurd hp h.present, h.silent⟩
  present := by simpa [Journal.parted_cons, Fact.isFarewellTo] using h.present

/-- Each item of a replay is discarded, kept, accepted or refused. -/
theorem of_replayed (h : Midway x.token plan (i :: items) o.failed s.journal)
    (hi : Replayed x s o i t o') : Midway x.token plan items o'.failed t.journal := by
  cases hi with
  | discarded k => exact h.discard s.clock x.token
  | kept ho ht =>
    rw [ho] at h ⊢
    exact h.keep.of_quiet ht.journal
  | @accepted e u _ a ho hu ha ht =>
    change Midway x.token plan items o.failed t.journal
    rw [ho] at h ⊢
    cases a with
    | ok => exact ((h.of_quiet hu.journal).accept u.clock).of_quiet ht.journal
    | error => cases ha
  | @refused e u _ a ho hu ha ht =>
    rw [ho] at h
    cases a with
    | ok => cases ha
    | error error => exact ((h.of_quiet hu.journal).refuse u.clock error).of_quiet ht.journal

end Midway

/-! ## Runs -/

variable {W : Type} {host : Host W} {s t u : System W} {x : Session} {o : System.Outcome}

/-- A replay to a session starts with nothing on its token. -/
theorem Served.midway (h : Served x.token j) (hp : j.plans x.token = []) (time : Nat)
    (plan : List Replay.Item) :
    Midway x.token plan plan false (⟨time, .planned x plan⟩ :: j) where
  plans := by simp [Journal.plans_cons, Fact.plan?, hp]
  tellings := by simp [Journal.tellings_cons, Fact.telling?, h.unplanned hp]
  going _ := ⟨[], by simp [Journal.dispatches_cons, Fact.dispatch?, h.unplanned hp], rfl⟩
  refused := nofun
  silent := Journal.silent_cons.2 ⟨fun _ => rfl, h.silent⟩
  present := by
    simpa [Journal.parted_cons, Fact.isFarewellTo] using Journal.not_parted_of_plans hp

/-- A replay to a session that has not been served before. -/
theorem Served.of_replay (h : Served x.token s.journal) (hp : s.journal.plans x.token = [])
    (hr : s.replay host x = (t, o)) :
    ∃ plan, Midway x.token plan [] o.failed t.journal :=
  ⟨_, System.replay_induct (motive := fun items t o =>
    Midway x.token (Replay.plan s.pending.snapshot s.pending.listening) items o.failed t.journal)
    (h.midway hp s.clock _) (fun hi h => h.of_replayed hi) hr⟩

/-- A replay tells nothing of another session. -/
theorem foreign_of_replay (hx : x.token ≠ token) (hr : s.replay host x = (t, o)) :
    s.journal.GrowsBy (Fact.Foreign token) t.journal := by
  have dispatch : ∀ (u : System W) e a,
      u.journal.GrowsBy (Fact.Foreign token) (u.record (.call (.dispatch x e a))).journal :=
    fun u e a => .cons ⟨⟨by simp [Fact.dispatch?, hx], rfl, rfl⟩, rfl⟩
  refine System.replay_induct (motive := fun _ t _ =>
    s.journal.GrowsBy (Fact.Foreign token) t.journal) ?_ ?_ hr
  · exact .cons ⟨⟨rfl, rfl, by simp [Fact.plan?, hx]⟩, rfl⟩
  · intro i is u o v o' hi hu
    refine hu.trans ?_
    cases hi with
    | discarded k => exact .cons ⟨⟨rfl, rfl, rfl⟩, rfl⟩
    | kept _ hv => exact hv.journal.foreign
    | accepted _ hw _ hv =>
      exact hw.journal.foreign.trans ((dispatch _ _ _).trans hv.journal.foreign)
    | refused _ hw _ hv =>
      exact hw.journal.foreign.trans ((dispatch _ _ _).trans hv.journal.foreign)

/-- How the loop and the slot agree with what the journal has on a token: it is given out, sought
once, and served after that. -/
structure Attended (token : BindToken) (s : System W) : Prop where
  given : s.loop.attempt = some token → token.number < s.nextToken
  unborn : s.nextToken ≤ token.number → s.journal.plans token = []
  seeking : s.loop.state = .connecting → s.loop.attempt = some token →
    s.journal.plans token = []
  served : Served token s.journal
  live : ∀ x, s.slot = some x → x.token = token → Live token s.journal

/-- Telling the extension something draws up no plan. -/
theorem Told.plans_eq {e : LifecycleEvent} (h : Told s e t) :
    t.journal.plans token = s.journal.plans token := by
  have quiet : ∀ {u v : System W}, Unheard u v → v.journal.plans token = u.journal.plans token :=
    fun h => Journal.chronicle_of_growsBy h.journal fun _ hf =>
      Fact.plan?_eq_none (Fact.isEventful_eq_false hf)
  cases h with
  | untold => rfl
  | deferred _ ht =>
    rw [quiet ht]
    simp [System.record, Journal.plans_cons, Fact.plan?]
  | accepted _ _ ht =>
    rw [quiet ht]
    simp [System.record, Journal.plans_cons, Fact.plan?]
  | refused _ _ ht =>
    rw [quiet ht]
    simp [System.record, Journal.plans_cons, Fact.plan?]

/-- What a caller tells the extension while the slot holds another session, or none. -/
theorem Told.foreign {e : LifecycleEvent} (h : Told s e t)
    (hs : ∀ x, s.slot = some x → x.token ≠ token) :
    s.journal.GrowsBy (Fact.Foreign token) t.journal := by
  have told : ∀ {x a}, s.slot = some x → s.journal.GrowsBy (Fact.Foreign token)
      ((s.record (.told e (some x))).record (.call (.dispatch x e a))).journal := fun hx =>
    .trans (.cons ⟨⟨rfl, by simp [Fact.telling?, hs _ hx], rfl⟩, rfl⟩)
      (.cons ⟨⟨by simp [Fact.dispatch?, hs _ hx], rfl, rfl⟩, rfl⟩)
  cases h with
  | untold => exact .refl _
  | deferred _ ht => exact .trans (.cons ⟨⟨rfl, rfl, rfl⟩, rfl⟩) ht.journal.foreign
  | accepted hx _ ht => exact (told hx).trans ht.journal.foreign
  | refused hx _ ht => exact (told hx).trans ht.journal.foreign

/-- What a caller tells the session in the slot. -/
theorem Told.served {e : LifecycleEvent} (h : Told s e t) (hx : s.slot = some x)
    (hs : Served x.token s.journal) (hl : Live x.token s.journal) :
    Served x.token t.journal ∧ (t.slot.isSome → Live x.token t.journal) := by
  cases h with
  | untold => exact ⟨hs, fun _ => hl⟩
  | deferred hx' => cases hx ▸ hx'
  | @accepted _ y a hy ha ht =>
    obtain rfl : x = y := Option.some.inj (hx.symm.trans hy)
    cases a with
    | error => cases ha
    | ok =>
      exact ⟨(hs.accept hl).of_growsBy ht.journal.foreign.elsewhere,
        fun _ => hl.accept.of_growsBy ht.journal.foreign⟩
  | @refused _ y a hy ha ht =>
    obtain rfl : x = y := Option.some.inj (hx.symm.trans hy)
    cases a with
    | ok => cases ha
    | error error =>
      refine ⟨(hs.refuse hl).of_growsBy ht.journal.foreign.elsewhere, fun hslot => ?_⟩
      cases ht.slot ▸ hslot

namespace Attended

theorem of_still (hs : Attended token s) (h : Still s t) : Attended token t := by
  have hj : s.journal.GrowsBy (Fact.Foreign token) t.journal := h.journal.foreign
  have hp := (Journal.sameOf_of_growsBy hj.elsewhere).plans
  refine ⟨fun ha => ?_, fun hn => ?_, fun hst ha => ?_, ?_, fun x hx htoken => ?_⟩
  · exact Nat.lt_of_lt_of_le (hs.given (h.attempt ▸ ha)) h.nextToken
  · rw [hp]
    exact hs.unborn (Nat.le_trans h.nextToken hn)
  · rw [hp]
    exact hs.seeking (h.state_eq (by simp [hst, ConnectionState.isIdle]) ▸ hst) (h.attempt ▸ ha)
  · exact hs.served.of_growsBy hj.elsewhere
  · exact (hs.live x (h.slot ▸ hx) htoken).of_growsBy hj

/-- What a caller tells goes to the session in the slot, if there is one. -/
theorem of_told {e : LifecycleEvent} (hs : Attended token s) (h : Told s e t) :
    Attended token t := by
  have hserved : Served token t.journal ∧
      ∀ x, t.slot = some x → x.token = token → Live token t.journal := by
    by_cases hslot : ∃ x, s.slot = some x ∧ x.token = token
    · obtain ⟨x, hx, rfl⟩ := hslot
      obtain ⟨hserved, hlive⟩ := h.served hx hs.served (hs.live x hx rfl)
      exact ⟨hserved, fun y hy _ => hlive (by simp [hy])⟩
    · have hslot : ∀ x, s.slot = some x → x.token ≠ token := fun x hx htoken =>
        hslot ⟨x, hx, htoken⟩
      have hj := h.foreign hslot
      refine ⟨hs.served.of_growsBy hj.elsewhere, fun x hx htoken => ?_⟩
      rcases h.slot_eq with ht | ht
      · exact absurd htoken (hslot x (ht ▸ hx))
      · cases ht ▸ hx
  refine ⟨fun ha => ?_, fun hn => ?_, fun hst ha => ?_, hserved.1, hserved.2⟩
  · rw [h.aside.loop] at ha
    exact Nat.lt_of_lt_of_le (hs.given ha) h.aside.nextToken
  · rw [h.plans_eq]
    exact hs.unborn (Nat.le_trans h.aside.nextToken hn)
  · rw [h.aside.loop] at hst ha
    rw [h.plans_eq]
    exact hs.seeking hst ha

theorem of_meanwhile (hs : Attended token s) (h : Meanwhile s t) : Attended token t :=
  h.induct hs (fun _ _ h hs => hs.of_still h) fun _ _ _ h hs => hs.of_told h

/-- What is lost is only left to be remembered. -/
theorem of_lost (hunborn : s.nextToken ≤ token.number → s.journal.plans token = [])
    (hserved : Served token s.journal) (h : Lost s t) : Attended token t := by
  have hj : s.journal.GrowsBy (Fact.Elsewhere token) t.journal :=
    h.journal.imp fun _ => Fact.elsewhere_of_uneventful
  refine ⟨fun ha => ?_, fun hn => ?_, fun _ ha => ?_, hserved.of_growsBy hj, fun x hx => ?_⟩
  · cases h.attempt ▸ ha
  · rw [(Journal.sameOf_of_growsBy hj).plans]
    exact hunborn (Nat.le_trans h.nextToken hn)
  · cases h.attempt ▸ ha
  · cases h.slot ▸ hx

/-- The session in the making is served from its plan on, and no other one is. -/
theorem of_replay {l : Loop} (hs : Attended token s) (hst : s.loop.state = .connecting)
    (ha : s.loop.attempt = some x.token)
    (hr : { s with loop := l }.replay host x = (u, o)) :
    (u.nextToken ≤ token.number → u.journal.plans token = []) ∧ Served token u.journal ∧
      (x.token = token → o.failed = false → Live token u.journal) := by
  have hle : s.nextToken ≤ u.nextToken := (System.aside_of_replay hr).nextToken
  by_cases hx : x.token = token
  · subst hx
    obtain ⟨plan, h⟩ := Served.of_replay (s := { s with loop := l }) hs.served
      (hs.seeking hst ha) hr
    refine ⟨fun hn => ?_, h.served, fun _ ho => (ho ▸ h).live⟩
    exact absurd (hs.given ha) (Nat.not_lt.2 (Nat.le_trans hle hn))
  · have hj : s.journal.GrowsBy (Fact.Elsewhere token) u.journal :=
      (foreign_of_replay (s := { s with loop := l }) hx hr).elsewhere
    refine ⟨fun hn => ?_, hs.served.of_growsBy hj, fun h => absurd h hx⟩
    rw [(Journal.sameOf_of_growsBy hj).plans]
    exact hs.unborn (Nat.le_trans hle hn)

end Attended

/-- No plan is drawn up while a bind is being tried. -/
theorem Meanwhile.plans_eq (h : Meanwhile s t) :
    t.journal.plans token = s.journal.plans token := by
  refine h.induct (motive := fun t => t.journal.plans token = s.journal.plans token) rfl
    (fun _ _ h hs => ?_) fun _ _ _ h hs => h.plans_eq.trans hs
  rw [← hs]
  exact Journal.chronicle_of_growsBy h.journal.uneventful fun _ => Fact.plan?_eq_none

namespace Attended

/-- Whatever happens to sessions and events, each token stays attended. -/
theorem of_move (hs : Attended token s) (h : Move host s t) : Attended token t := by
  cases h with
  | still h => exact hs.of_still h
  | told h => exact hs.of_told h
  | lost h => exact of_lost hs.unborn hs.served h
  | @sought u t hi hu hge hlt =>
    have h := hs.of_meanwhile hu
    refine { h with given := fun ha => ?_, seeking := fun _ ha => ?_ }
    · cases ha
      exact hlt
    · cases ha
      exact hu.plans_eq.trans (hs.unborn hge)
  | @made u x o hst ha hr ho =>
    obtain ⟨hunborn, hserved, hlive⟩ := hs.of_replay hst ha hr
    have hloop := (System.aside_of_replay hr).loop
    refine ⟨fun ha' => ?_, hunborn, fun hst' => ?_, hserved, fun y hy htoken => ?_⟩
    · have ha' : s.loop.attempt = some token := by simpa [hloop] using ha'
      exact Nat.lt_of_lt_of_le (hs.given ha') (System.aside_of_replay hr).nextToken
    · simp [hloop] at hst'
    · cases hy
      exact hlive htoken ho
  | @refused u t x o hst ha hr ho hl =>
    obtain ⟨hunborn, hserved, -⟩ := hs.of_replay hst ha hr
    exact of_lost (s := { u with loop.dropped := u.loop.dropped + o.dropped }) hunborn hserved hl

end Attended

/-- In each reachable state, each token is attended. -/
theorem Reachable.attended (hs : Reachable host s) (token : BindToken) : Attended token s := by
  refine hs.induct (fun x c w => ?_) (fun _ _ _ h => { h with }) fun _ _ h hs => hs.of_move h
  exact {
    given := nofun
    unborn := fun _ => rfl
    seeking := nofun
    served := (Served.empty token).of_growsBy (.cons ⟨rfl, rfl, rfl⟩)
    live := nofun }

/-! ## What a session sees -/

namespace Course

variable {sends tellings : List LifecycleEvent} {ds : List (LifecycleEvent × Bool)}

/-- A course is what was replayed, and then what callers told once the replay was accepted. -/
theorem split (h : Course sends tellings ds) : ∃ replayed later, ds = replayed ++ later ∧
    replayed.map Prod.fst <+: sends ∧ later.map Prod.fst = tellings ∧
    (later ≠ [] → replayed = sends.map (·, true)) ∧
    ((∀ d ∈ replayed, d.2 = true) → replayed.map Prod.fst = sends) := by
  have hfst : ∀ l : List LifecycleEvent, (l.map (·, true)).map Prod.fst = l := fun l => by
    simp [Function.comp_def]
  have hprefix : (sends.map (·, true)).map Prod.fst <+: sends :=
    ⟨[], by rw [hfst, List.append_nil]⟩
  have replaying : ∀ {done : List LifecycleEvent} {e : LifecycleEvent},
      tellings = [] → done ++ [e] <+: sends → ∃ replayed later,
        done.map (·, true) ++ [(e, false)] = replayed ++ later ∧
        replayed.map Prod.fst <+: sends ∧ later.map Prod.fst = tellings ∧
        (later ≠ [] → replayed = sends.map (·, true)) ∧
        ((∀ d ∈ replayed, d.2 = true) → replayed.map Prod.fst = sends) := by
    rintro done e rfl hdone
    refine ⟨_, [], (List.append_nil _).symm, by simpa [hfst] using hdone, rfl, nofun, fun h => ?_⟩
    cases h (e, false) (by simp)
  cases h with
  | accepted =>
    exact ⟨sends.map (·, true), tellings.map (·, true), by simp, hprefix, hfst _, fun _ => rfl,
      fun _ => hfst _⟩
  | @refused done e h =>
    rcases h with h | ⟨rfl, h⟩
    · rcases List.eq_nil_or_concat tellings with rfl | ⟨init, e', rfl⟩
      · exact replaying rfl (by simp [h])
      · rw [List.concat_eq_append, ← List.append_assoc] at h
        obtain ⟨rfl, he⟩ := List.append_inj' h rfl
        obtain rfl := List.singleton_inj.1 he
        exact ⟨sends.map (·, true), init.map (·, true) ++ [(e, false)], by simp, hprefix,
          by simp [Function.comp_def], fun _ => rfl, fun _ => hfst _⟩
    · exact replaying rfl h

/-- Only the last event of a course can have been refused. -/
theorem accepted_of_mem_dropLast (h : Course sends tellings ds) :
    ∀ d ∈ ds.dropLast, d.2 = true := by
  have hmap : ∀ (l : List LifecycleEvent), ∀ d ∈ l.map (·, true), d.2 = true := by
    intro l d hd
    obtain ⟨e, -, rfl⟩ := List.mem_map.1 hd
    rfl
  cases h with
  | accepted => exact fun d hd => hmap _ d ((List.dropLast_sublist _).subset hd)
  | refused =>
    rw [List.dropLast_concat]
    exact hmap _

end Course

/-- The token's session was served, and is not in the slot: what it was sent is `ds`. -/
structure Dismissed (token : BindToken) (ds : List (LifecycleEvent × Bool)) (s : System W) :
    Prop where
  planned : s.journal.plans token ≠ []
  absent : ∀ x, s.slot = some x → x.token ≠ token
  sent : s.journal.dispatches token = ds

namespace Dismissed

variable {ds : List (LifecycleEvent × Bool)}

/-- A dismissed session hears nothing of facts that say nothing of it. -/
theorem of_growsBy (hs : Dismissed token ds s)
    (h : s.journal.GrowsBy (Fact.Elsewhere token) t.journal)
    (hslot : ∀ x, t.slot = some x → x.token ≠ token) : Dismissed token ds t := by
  have hj := Journal.sameOf_of_growsBy h
  exact ⟨hj.plans ▸ hs.planned, hslot, hj.dispatches.trans hs.sent⟩

theorem of_still (hs : Dismissed token ds s) (h : Still s t) : Dismissed token ds t :=
  hs.of_growsBy h.journal.foreign.elsewhere (h.slot ▸ hs.absent)

/-- What callers tell goes to the session in the slot, which is another one. -/
theorem of_told {e : LifecycleEvent} (hs : Dismissed token ds s) (h : Told s e t) :
    Dismissed token ds t := by
  refine hs.of_growsBy (h.foreign hs.absent).elsewhere fun x hx => ?_
  rcases h.slot_eq with ht | ht
  · exact hs.absent x (ht ▸ hx)
  · cases ht ▸ hx

theorem of_meanwhile (hs : Dismissed token ds s) (h : Meanwhile s t) : Dismissed token ds t :=
  h.induct hs (fun _ _ h hs => hs.of_still h) fun _ _ _ h hs => hs.of_told h

theorem of_lost (hs : Dismissed token ds s) (h : Lost s t) : Dismissed token ds t :=
  hs.of_growsBy (h.journal.imp fun _ => Fact.elsewhere_of_uneventful) fun x hx => by
    cases h.slot ▸ hx

/-- A dismissed session stays dismissed, since there is no second plan for its token. -/
theorem of_move (hs : Dismissed token ds s) (ha : Attended token s) (h : Move host s t) :
    Dismissed token ds t := by
  -- A session is only made of an attempt, and the token's attempt is over.
  have replayed : ∀ {l : Loop} {x u o}, s.loop.state = .connecting →
      s.loop.attempt = some x.token → { s with loop := l }.replay host x = (u, o) →
      x.token ≠ token ∧ s.journal.GrowsBy (Fact.Elsewhere token) u.journal := by
    intro l x u o hst hattempt hr
    have hx : x.token ≠ token := by
      rintro rfl
      exact hs.planned (ha.seeking hst hattempt)
    exact ⟨hx, (foreign_of_replay (s := { s with loop := l }) hx hr).elsewhere⟩
  cases h with
  | still h => exact hs.of_still h
  | told h => exact hs.of_told h
  | lost h => exact hs.of_lost h
  | sought _ hu => exact { hs.of_meanwhile hu with }
  | @made u x o hst hattempt hr =>
    obtain ⟨hx, hj⟩ := replayed hst hattempt hr
    refine hs.of_growsBy hj fun y hy => ?_
    cases hy
    exact hx
  | @refused u t x o hst hattempt hr _ hl =>
    obtain ⟨-, hj⟩ := replayed hst hattempt hr
    refine hs.of_growsBy (hj.trans (hl.journal.imp fun _ => Fact.elsewhere_of_uneventful)) ?_
    intro y hy
    cases hl.slot ▸ hy

/-- Whatever happens, a session that was dismissed is not sent anything. -/
theorem of_run (hs : Dismissed token ds s) (ha : Attended token s) (as : List (Step W)) :
    Dismissed token ds (s.run host as) := by
  induction as generalizing s with
  | nil => exact hs
  | cons a as ih =>
    have hstep : Dismissed token ds (s.step host a) ∧ Attended token (s.step host a) :=
      step_induct (motive := fun s => Dismissed token ds s ∧ Attended token s)
        (fun _ _ _ h => ⟨{ h.1 with }, { h.2 with }⟩)
        (fun _ _ h hs => ⟨hs.1.of_move hs.2 h, hs.2.of_move h⟩) ⟨hs, ha⟩ a
    exact ih hstep.1 hstep.2

end Dismissed

/-- A session is sent the events of its replay plan up to the first that it refuses; then, if
it accepted them all, what callers tell the extension while it is in the slot, up to the first
that it refuses. Nothing is sent to it after it was let go of, nor, in whatever run, once it is
not in the slot. -/
theorem dispatches_follow_course (hs : Reachable host s) (token : BindToken) :
    (s.journal.plans token).length ≤ 1 ∧
    (∃ replayed later, s.journal.dispatches token = replayed ++ later ∧
      replayed.map Prod.fst <+: s.journal.sends token ∧
      later.map Prod.fst = s.journal.tellings token ∧
      (later ≠ [] → replayed = (s.journal.sends token).map (·, true)) ∧
      ((∀ d ∈ replayed, d.2 = true) → replayed.map Prod.fst = s.journal.sends token)) ∧
    (∀ d ∈ (s.journal.dispatches token).dropLast, d.2 = true) ∧
    s.journal.Silent token ∧
    (s.journal.plans token ≠ [] → (∀ x, s.slot = some x → x.token ≠ token) →
      ∀ as, (s.run host as).journal.dispatches token = s.journal.dispatches token) := by
  have ha := hs.attended token
  have h := ha.served
  refine ⟨h.single, h.course.split, h.course.accepted_of_mem_dropLast, h.silent, ?_⟩
  intro hp habsent as
  have hd : Dismissed token (s.journal.dispatches token) s := ⟨hp, habsent, rfl⟩
  exact (hd.of_run ha as).sent

/-- A session that was told of an event that had waited for it, and then refused one. -/
def Scenario.served : System World :=
  (System.spawn ⟨⟨0⟩, ⟨"music"⟩, ⟨"player"⟩⟩ {} { transports := [{}] }).run Scenario.host
    [.act (.tell .added), .act (.tell .startListening), .turn,
      .act (.deed (.ask (.setEnabled true))), .turn, .turn,
      .act (.deed (.report (.connected ⟨1⟩ ⟨0⟩))), .turn,
      .act (.tell (.click ⟨7⟩)), .drift {}, .act (.tell .removed)]

theorem Scenario.reachable_served : Reachable Scenario.host served :=
  (Reachable.spawn _ _ _ rfl).run _

theorem refused_removal_ends_course :
    Scenario.served.journal.dispatches ⟨1⟩ =
      [(.added, true), (.startListening, true), (.click ⟨7⟩, true), (.removed, false)] ∧
    Scenario.served.journal.Silent ⟨1⟩ ∧
    ∀ as, (Scenario.served.run Scenario.host as).journal.dispatches ⟨1⟩ =
      Scenario.served.journal.dispatches ⟨1⟩ := by
  obtain ⟨-, -, -, hsilent, hend⟩ := dispatches_follow_course Scenario.reachable_served ⟨1⟩
  have hp : Scenario.served.journal.plans ⟨1⟩ = [[.send .added, .send .startListening]] := rfl
  have hslot : Scenario.served.slot = none := rfl
  exact ⟨rfl, hsilent, hend (by simp [hp]) (by simp [hslot])⟩

end Supervision
