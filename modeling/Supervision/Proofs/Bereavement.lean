import Supervision.Proofs.Consistency
import Supervision.Proofs.Abandonment
import Supervision.Proofs.Clearance

/-!
# A session dies once

Whoever notices that a session died reports it: the binder, the transport, and each caller whose
dispatch was refused. So the loop may be told of one death many times, in any order, and while a
bind is still in flight.

The first report ends the attempt (`System.bereaved_obey`). The binding is given back, and the
registry is asked for the extension. If it is there a reconnect is scheduled, unless one is
(`Rescheduled`); otherwise the loop asks for availability signals, unless it watches
(`Watching`). Every later report is about a token that is not that of an attempt, and all that
comes of it is that the loop says so (`System.echoed_run`).
-/

namespace Supervision

variable {W : Type} {host : Host W} {s t u : System W} {a : Step W} {c : Command}
  {token : BindToken}

/-! ## What the loop asks for -/

namespace Fact

/-- A call that the loop makes of its own accord. Lookups of the metadata are made by callers, at
any time. -/
def call? : Fact → Option Call
  | .call (.metadata _) => none
  | .call c => some c
  | _ => none

theorem call?_of_isMinor {f : Fact} (h : f.isMinor = true) : f.call? = none := by
  cases f with
  | call c => cases c <;> first | rfl | cases h
  | _ => rfl

end Fact

/-- The calls that the loop made of its own accord, in order. -/
def Journal.calls (j : Journal) : List Call := j.chronicle Fact.call?

theorem Journal.calls_cons {r : Record} {j : Journal} :
    calls (r :: j) = j.calls ++ r.fact.call?.toList := chronicle_cons ..

namespace System

@[simp] theorem calls_note (s : System W) (n : Note) :
    (s.note n).journal.calls = s.journal.calls :=
  Journal.calls_cons.trans (List.append_nil _)

theorem calls_consult (host : Host W) (s : System W) {α : Type} {c : Call}
    (hc : (Fact.call c).call? = some c) (r : Reaction Deed α W) :
    (s.consult host c r).journal.calls = s.journal.calls ++ [c] := by
  have h : (s.consult host c r).journal.calls = (s.record (.call c)).journal.calls :=
    Journal.chronicle_of_growsBy (minor_consult host s c r) fun _ => Fact.call?_of_isMinor
  rw [h, record, Journal.calls_cons, hc, Option.toList_some]

theorem calls_publish (s : System W) : s.publish.journal.calls = s.journal.calls := by
  unfold publish
  split
  · rfl
  · exact Journal.calls_cons.trans (List.append_nil _)

/-- To let go of a binding is to give it back. -/
theorem calls_release (host : Host W) (s : System W) : (s.release host).journal.calls =
    s.journal.calls ++ s.loop.binding.toList.map .unbind := by
  simp only [release]
  split <;> rename_i h <;> have hb : s.loop.binding = _ := h
  · rw [hb]
    exact (List.append_nil _).symm
  · rw [hb]
    exact calls_consult host _ rfl _

end System

/-! ## The end of an attempt -/

/-- The loop once it has let go of the attempt at hand. -/
def Loop.bereft (l : Loop) : Loop :=
  { l with state := .unbound, attempt := none, binding := none, session := none }

/-- The attempt at hand was let go of, and since then nothing else was done but to make calls. -/
structure LetGo (s : System W) (calls : List Call) (t : System W) : Prop where
  extension : t.extension = s.extension
  config : t.config = s.config
  clock : t.clock = s.clock
  loop : t.loop = s.loop.bereft
  timers : t.timers = s.timers
  pending : t.pending = s.pending
  slot : t.slot = none
  calls : t.journal.calls = s.journal.calls ++ calls

theorem LetGo.note {calls : List Call} (h : LetGo s calls t) (n : Note) :
    LetGo s calls (t.note n) :=
  { h with calls := (System.calls_note t n).trans h.calls }

/-- To let go of the attempt at hand is to give its binding back. -/
theorem System.letGo_release (host : Host W) (s : System W) :
    LetGo s (s.loop.binding.toList.map .unbind) (s.release host) := by
  have hlost := lost_release host s
  have huntimed := untimed_release host s
  exact {
    extension := (stirred_release host s).steady.extension
    config := huntimed.config
    clock := huntimed.clock
    loop := loop_release host s
    timers := huntimed.timers
    pending := hlost.pending
    slot := hlost.slot
    calls := calls_release host s }

/-! ## What follows -/

/-- How the registry answers when it is asked for the extension `x`; the flag says whether it has
it. -/
inductive Lookup (x : Extension) : Bool → List Call → Prop
  | found : Lookup x true
      [.resolvePackage x.package x.user (.ok ()), .resolveComponent x (.ok ())]
  | packageMissing {e : Error} : Lookup x false [.resolvePackage x.package x.user (.error e)]
  | componentMissing {e : Error} : Lookup x false
      [.resolvePackage x.package x.user (.ok ()), .resolveComponent x (.error e)]

/-- After the attempt was let go of, a reconnect is scheduled: the one that was, or else a new one,
for which a timer is armed. -/
inductive Rescheduled (s t : System W) : Prop
  | kept {g : Nat} (hr : s.loop.retry = some g) (hl : t.loop = s.loop.bereft)
      (ht : t.timers = s.timers)
  | armed (hr : s.loop.retry = none)
      (hl : t.loop = { s.loop.bereft with
        generation := s.loop.generation + 1, retry := some (s.loop.generation + 1) })
      (ht : t.timers = s.timers ++
        [⟨s.loop.generation + 1, s.clock + s.config.retryDelay.toNat⟩])

/-- After the attempt was let go of, the loop watches for signals: by the subscription that is open,
or else by one that it asks for, unless that is declined. The retry is left alone. -/
inductive Watching (s t : System W) : List Call → Prop
  | already (hw : s.loop.watching.isSome = true) (hl : t.loop = s.loop.bereft)
      (ht : t.timers = s.timers) : Watching s t []
  | asked {id : Subscription} {a : Except Error Unit} (hw : s.loop.watching = none)
      (hl : t.loop = { s.loop.bereft with watching := if a.isOk then some id else none })
      (ht : t.timers = s.timers) : Watching s t [.subscribe ⟨id, s.extension.user⟩ a]

/-- What follows when the attempt was let go of, and the calls that are made for it. -/
inductive Aftermath (s t : System W) : List Call → Prop
  | found {lookups : List Call} (h : Lookup s.extension true lookups) (ht : Rescheduled s t) :
      Aftermath s t lookups
  | missing {lookups calls : List Call} (h : Lookup s.extension false lookups)
      (ht : Watching s t calls) : Aftermath s t (lookups ++ calls)

/-- The session at hand died: its binding was given back, once, and nothing else was done than what
follows from that. -/
structure Bereaved (s t : System W) : Prop where
  pending : t.pending = s.pending
  slot : t.slot = none
  calls : ∃ b calls, s.loop.binding = some b ∧
    t.journal.calls = s.journal.calls ++ .unbind b :: calls ∧ Aftermath s t calls

namespace LetGo

variable {calls : List Call}

/-- The registry was asked. -/
theorem resolved {r : Except Error Unit} (h : LetGo s calls t) (ht : Resolved t u r) :
    ∃ lookups, Lookup s.extension r.isOk lookups ∧ LetGo s (calls ++ lookups) u := by
  have hcalls (c c' : Call) (hc : (Fact.call c).call? = some c)
      (hc' : (Fact.call c').call? = some c') :
      ((t.record (.call c)).record (.call c')).journal.calls =
        s.journal.calls ++ (calls ++ [c, c']) := by
    rw [System.record, Journal.calls_cons, System.record, Journal.calls_cons, h.calls, hc, hc']
    simp
  rw [← h.extension]
  cases ht with
  | found => exact ⟨_, .found, { h with calls := hcalls _ _ rfl rfl }⟩
  | @packageMissing e =>
    refine ⟨_, .packageMissing (e := e), { h with calls := ?_ }⟩
    rw [System.record, Journal.calls_cons, h.calls]
    simp [Fact.call?]
  | @componentMissing e =>
    exact ⟨_, .componentMissing (e := e), { h with calls := hcalls _ _ rfl rfl }⟩

/-- The extension is there, so a reconnect is scheduled. -/
theorem rescheduled (h : LetGo s calls t) : Rescheduled s t.scheduleRetry ∧
    t.scheduleRetry.journal.calls = s.journal.calls ++ calls := by
  have hretry : t.loop.retry = s.loop.retry := by
    rw [h.loop]
    rfl
  cases hr : s.loop.retry with
  | some g =>
    have heq : t.scheduleRetry = t.note .retryPending := if_pos (by rw [hretry, hr]; rfl)
    rw [heq]
    exact ⟨.kept hr h.loop h.timers, (h.note .retryPending).calls⟩
  | none =>
    rw [System.scheduleRetry_eq (hretry.trans hr)]
    refine ⟨.armed hr ?_ ?_, (h.note _).calls⟩
    · simp only [System.loop_note, h.loop]
      rfl
    · simp only [h.timers, h.loop, h.clock, h.config]
      rfl

/-- The extension is not there, so the loop watches. -/
theorem watching (h : LetGo s calls t) (host : Host W) :
    ∃ more, Watching s (t.watch host) more ∧
      (t.watch host).journal.calls = s.journal.calls ++ (calls ++ more) := by
  have hwatching : t.loop.watching = s.loop.watching := by
    rw [h.loop]
    rfl
  unfold System.watch
  split <;> rename_i hw
  · refine ⟨[], .already (hwatching ▸ hw) h.loop h.timers, ?_⟩
    rw [System.calls_note, h.calls, List.append_nil]
  · simp only
    generalize hq : (⟨⟨t.nextSubscription⟩, t.extension.user⟩ : SubscriptionRequest) = q
    generalize host.subscribe t.world q = r
    have hid : q = ⟨⟨t.nextSubscription⟩, s.extension.user⟩ := by rw [← hq, h.extension]
    have hnone : s.loop.watching = none := by simpa [hwatching] using hw
    have huntimed := System.untimed_of_call host
      { t with nextSubscription := t.nextSubscription + 1 } (c := .subscribe q r.answer) rfl r
    have hloop := (System.unheard_consult (s := { t with
      nextSubscription := t.nextSubscription + 1 }) host (.subscribe q r.answer) r).loop
    have hcalls := System.calls_consult host
      { t with nextSubscription := t.nextSubscription + 1 } (c := .subscribe q r.answer) rfl r
    generalize System.consult host _ (.subscribe q r.answer) r = u at huntimed hloop hcalls
    have hl : u.loop = s.loop.bereft := hloop.trans h.loop
    have ht : u.timers = s.timers := huntimed.timers.trans h.timers
    refine ⟨[.subscribe q r.answer], ?_, ?_⟩
    · rw [hid]
      split <;> rename_i ha <;> rw [ha]
      · exact .asked hnone (by simp [hl, Except.isOk, Except.toBool]) ht
      · refine .asked hnone ?_ ht
        rw [System.loop_note, hl, ← hnone]
        rfl
    · rw [← List.append_assoc, ← h.calls, ← hcalls]
      split <;> exact System.calls_note u _

end LetGo

/-! ## The first report -/

namespace System

/-- The death of the session at hand, while a connection is wanted. -/
theorem bereaved_sessionDied (host : Host W) (cause : DeathCause)
    (ha : s.loop.attempt = some token) (hi : s.loop.state.isIdle = false)
    (hb : s.loop.binding.isSome = true) (hd : s.loop.desired = true) :
    Bereaved s (s.sessionDied host token cause) := by
  obtain ⟨b, hb⟩ := Option.isSome_iff_exists.1 hb
  have hlost := lost_sessionDied (s := s) host cause ha (by simp [hi])
  refine ⟨hlost.pending, hlost.slot, b, ?_⟩
  have hgo : LetGo s [.unbind b] ((s.note (.sessionDied token cause)).release host) := by
    have h := letGo_release host (s.note (.sessionDied token cause))
    rw [loop_note, hb] at h
    exact { h with calls := h.calls.trans (by rw [calls_note]; rfl) }
  have hstate : s.loop.state = .connecting ∨ s.loop.state = .connected := by
    revert hi
    cases s.loop.state <;> simp [ConnectionState.isIdle]
  have hdesired : ((s.note (.sessionDied token cause)).release host).loop.desired = true := by
    rw [hgo.loop]
    exact hd
  rw [sessionDied, if_pos ⟨ha, hstate⟩]
  simp only [hdesired, if_true]
  generalize (s.note (.sessionDied token cause)).release host = t at hgo ⊢
  have hresolved := resolved_resolve host t
  cases hr : t.resolve host with
  | mk u r =>
    rw [hr] at hresolved
    obtain ⟨lookups, hlookup, hlooked⟩ := hgo.resolved hresolved
    cases r with
    | ok x =>
      obtain ⟨hretry, hcalls⟩ := hlooked.rescheduled
      simp only [checkAvailable, hr]
      exact ⟨lookups, hb, hcalls, .found hlookup hretry⟩
    | error e =>
      obtain ⟨calls, hwatching, hcalls⟩ := (hlooked.note (.notAvailable e)).watching host
      simp only [checkAvailable, hr]
      refine ⟨lookups ++ calls, hb, ?_, .missing hlookup hwatching⟩
      rw [hcalls, List.append_assoc]
      rfl

end System

/-- The command reports that the session of the token died. -/
inductive Command.Buries (token : BindToken) : Command → Prop
  | reported (cause : DeathCause) : Buries token (.sessionDied token cause)
  /-- A caller's dispatch was refused. -/
  | refused : Buries token (.deathCheck (some token))

namespace System

theorem exists_obey_eq (h : c.Buries token) : ∃ cause, ∀ (host : Host W) (s : System W),
    s.obey host c = s.sessionDied host token cause := by
  cases h with
  | reported cause => exact ⟨cause, fun _ _ => rfl⟩
  | refused => exact ⟨.dispatchFailed, fun _ _ => rfl⟩

end System

namespace Bereaved

/-- There is no attempt left that could die. -/
theorem attempt (h : Bereaved s t) : t.loop.attempt = none := by
  obtain ⟨-, -, b, calls, -, -, hafter⟩ := h
  cases hafter with
  | found _ hretry =>
    cases hretry with
    | kept _ hl => rw [hl]; rfl
    | armed _ hl => rw [hl]; rfl
  | missing _ hwatching =>
    cases hwatching with
    | already _ hl => rw [hl]; rfl
    | asked _ hl => rw [hl]; rfl

/-- Taking a command out of the inbox before, and publishing the status after, add nothing. -/
theorem publish {rest : List Command} {n : Note}
    (h : Bereaved ({ s with inbox := rest }.note n) t) : Bereaved s t.publish := by
  have hstill := System.still_publish t
  have hl : t.publish.loop = t.loop := System.loop_publish t
  have ht : t.publish.timers = t.timers := (System.untimed_publish t).timers
  obtain ⟨hpending, hslot, b, calls, hb, hcalls, hafter⟩ := h
  refine ⟨hstill.pending.trans hpending, hstill.slot.trans hslot, b, calls, hb, ?_, ?_⟩
  · rw [System.calls_publish, hcalls, System.calls_note]
  cases hafter with
  | found hlookup hretry =>
    refine .found hlookup ?_
    cases hretry with
    | kept hr hkept htimers => exact .kept hr (hl.trans hkept) (ht.trans htimers)
    | armed hr harmed htimers => exact .armed hr (hl.trans harmed) (ht.trans htimers)
  | missing hlookup hwatching =>
    refine .missing hlookup ?_
    cases hwatching with
    | already hw hkept htimers => exact .already hw (hl.trans hkept) (ht.trans htimers)
    | asked hw hasked htimers => exact .asked hw (hl.trans hasked) (ht.trans htimers)

end Bereaved

namespace System

/-- The first report of a death. -/
theorem bereaved_step (hs : Reachable host s) (ha : s.loop.attempt = some token)
    (hc : s.command? a = some c) (hdeath : c.Buries token) : Bereaved s (s.step host a) := by
  obtain ⟨cause, hobey⟩ := exists_obey_eq (W := W) hdeath
  obtain ⟨rest, hrun, -, heq⟩ := exists_step_eq host hc (by cases hdeath <;> nofun)
  have hopen : s.phase ≠ .stopped := by rw [hrun]; nofun
  have hconsistent := hs.consistent hopen
  have hst := hconsistent.attempted.1 (by rw [ha]; rfl)
  have hd : s.loop.desired = true := (hs.sensible hopen).desired_of_attempt hst
  have hb : s.loop.binding.isSome = true := by rw [hconsistent.bound, ha]; rfl
  have hi : s.loop.state.isIdle = false := by rcases hst with h | h <;> rw [h] <;> rfl
  rw [heq, hobey]
  exact .publish (bereaved_sessionDied (s := { s with inbox := rest }.note (.received c)) host
    cause ha hi hb hd)

end System

/-! ## Every later report -/

/-- Nothing but the inbox is different, and that the journal tells of what the loop said. -/
def Echoed (s t : System W) : Prop :=
  ∃ inbox said, t = { s with inbox := inbox, journal := said ++ s.journal } ∧
    ∀ r ∈ said, ∃ n, r.fact = .note n

namespace Echoed

theorem refl (s : System W) : Echoed s s :=
  ⟨s.inbox, [], rfl, List.forall_mem_nil _⟩

theorem trans (h : Echoed s t) (h' : Echoed t u) : Echoed s u := by
  obtain ⟨inbox, said, rfl, hsaid⟩ := h
  obtain ⟨inbox', said', rfl, hsaid'⟩ := h'
  refine ⟨inbox', said' ++ said, by rw [List.append_assoc], fun r hr => ?_⟩
  rcases List.mem_append.1 hr with hr | hr
  · exact hsaid' r hr
  · exact hsaid r hr

theorem of_ignored (h : Ignored c s t) : Echoed s t := by
  obtain ⟨rest, said, -, ht, hsaid⟩ := h
  exact ⟨rest, said, ht, hsaid⟩

theorem notify (s : System W) (c : Command) : Echoed s (s.notify c) := by
  unfold System.notify
  split
  · exact ⟨s.inbox, [⟨s.clock, .note (.reportDropped c)⟩], rfl, by simp⟩
  · split
    · exact ⟨s.inbox ++ [c], [], rfl, List.forall_mem_nil _⟩
    · exact .refl s

theorem loop_eq (h : Echoed s t) : t.loop = s.loop := by
  obtain ⟨inbox, said, rfl, -⟩ := h
  rfl

end Echoed

/-- In each step of the run the loop processes a report that the session of the token died, or such
a report arrives. -/
def Mourning (host : Host W) (token : BindToken) (s : System W) : List (Step W) → Prop
  | [] => True
  | a :: as =>
    ((∃ c, s.command? a = some c ∧ c.Buries token) ∨
      ∃ r : Report, r.command.Buries token ∧ a = .act (.deed (.report r))) ∧
    Mourning host token (s.step host a) as

/-- Reports of a death have no effect on a loop that has let go of the attempt. -/
theorem System.echoed_run (hs : Reachable host s) (ha : s.loop.attempt ≠ some token)
    {as : List (Step W)} (h : Mourning host token s as) : Echoed s (s.run host as) := by
  induction as generalizing s with
  | nil => exact .refl s
  | cons a as ih =>
    obtain ⟨hreport, hrest⟩ := h
    have hstep : Echoed s (s.step host a) := by
      rcases hreport with ⟨c, hc, hdeath⟩ | ⟨r, -, rfl⟩
      · have htoken : c.token? = some token := by cases hdeath <;> rfl
        exact .of_ignored (ignored_of_token hs hc htoken ha)
      · exact .notify s r.command
    exact hstep.trans (ih (hs.step a) (by rwa [hstep.loop_eq]) hrest)

/-- A session dies once. The first report of its death, while the bind is in flight or the session
lives, makes the loop let go of it and give back its binding, and do what follows from that. All
reports of the death that are processed after it, in any number and order, change nothing: the loop,
the queue, the slot and the status are as after the first, and no collaborator is called. -/
theorem session_dies_once (hs : Reachable host s) (ha : s.loop.attempt = some token)
    (hc : s.command? a = some c) (hdeath : c.Buries token) {as : List (Step W)}
    (h : Mourning host token (s.step host a) as) :
    Bereaved s (s.step host a) ∧ (s.step host a).status = (s.step host a).loop.status ∧
      Echoed (s.step host a) ((s.step host a).run host as) := by
  have hfirst := System.bereaved_step hs ha hc hdeath
  refine ⟨hfirst, (hs.step a).status_eq, System.echoed_run (hs.step a) ?_ h⟩
  rw [hfirst.attempt]
  nofun

/-- The supervisor whose transport went away, after a caller's dispatch was refused and the
transport itself reported the death. -/
def Scenario.mourning : System World :=
  refused.run Scenario.host [.act (.deed (.report (.died ⟨1⟩)))]

theorem Scenario.reachable_mourning : Reachable Scenario.host mourning :=
  (Scenario.reachable_connected.run _).run _

/-- The binder notices it last. -/
def Scenario.condolences : List (Step World) :=
  [.act (.deed (.report (.disconnected ⟨1⟩))), .turn, .turn]

theorem mourning_schedules_one_reconnect :
    Scenario.mourning.loop.attempt = some ⟨1⟩ ∧
    Bereaved Scenario.mourning (Scenario.mourning.step Scenario.host .turn) ∧
    Echoed (Scenario.mourning.step Scenario.host .turn)
      ((Scenario.mourning.step Scenario.host .turn).run Scenario.host Scenario.condolences) ∧
    (Scenario.mourning.step Scenario.host .turn).timers = [⟨1, 1000⟩] := by
  have hattempt : Scenario.mourning.loop.attempt = some ⟨1⟩ := rfl
  have hcommand : Scenario.mourning.command? .turn = some (.deathCheck (some ⟨1⟩)) := rfl
  have hrest : Mourning Scenario.host ⟨1⟩ (Scenario.mourning.step Scenario.host .turn)
      Scenario.condolences :=
    ⟨.inr ⟨.disconnected ⟨1⟩, .reported .disconnected, rfl⟩,
      .inl ⟨_, rfl, .reported .deathNotification⟩, .inl ⟨_, rfl, .reported .disconnected⟩, trivial⟩
  obtain ⟨hfirst, -, hechoed⟩ :=
    session_dies_once Scenario.reachable_mourning hattempt hcommand .refused hrest
  exact ⟨hattempt, hfirst, hechoed, rfl⟩

end Supervision
