import Supervision.Proofs.Requeueing

/-!
# Two sessions for one

If a session refuses an event of its replay, what it did not accept waits for the next one. If nobody
addresses the extension in between, the two of them are together told what one session that accepts
everything is told, nothing of it twice, and a click keeps its target (`resumed_replay`). Only a
removal is not waited for: a replay that comes to it turns the level off, whether or not the session
is still there to be told to stop. So behind a refused event the removal silences what waits before
it, and the second replay drops the click and the unlock as it drops all that nobody listens for.

What a plan sends is laid out by `Replay.agenda`, of which the events about listening are left out
here (`Replay.occurrences`). What is kept of an agenda after its first events were accepted is again
laid out so, by the kinds of what is kept and at the level of before (`Replay.kept_eq`); and the
level makes a difference only if it is turned off and a click or an unlock is kept
(`Replay.occurrences_eq_iff`).
-/

namespace Supervision

namespace Replay

variable {owed : EventKind → Bool} {target : ClickTarget} {l : Bool}
  {done kept : List LifecycleEvent}

/-! ## What is received -/

/-- The events that a session accepted, but for those about listening. -/
def received (ds : List (LifecycleEvent × Bool)) : List LifecycleEvent :=
  (ds.filter fun d => d.2 && d.1.kind?.isSome).map Prod.fst

/-- What is received of events of which some were accepted and at most one was refused. -/
theorem received_append (done refused : List LifecycleEvent) :
    received (done.map (·, true) ++ refused.map (·, false)) = done.filter (·.kind?.isSome) := by
  simp [received, List.filter_map, Function.comp_def]

/-! ## Agendas without listening -/

/-- What a session is told of the kinds owed to it, at a listening level, but for what is about
listening. -/
def occurrences (owed : EventKind → Bool) (target : ClickTarget) (listening : Bool) :
    List LifecycleEvent :=
  (if owed .added then [.added] else []) ++
  (if owed .click && listening then [.click target] else []) ++
  (if owed .unlockComplete && listening then [.unlockComplete] else []) ++
  (if owed .removed then [.removed] else [])

theorem filter_ite (p : LifecycleEvent → Bool) (b : Bool) (e : LifecycleEvent) :
    (if b then [e] else []).filter p = if b && p e then [e] else [] := by
  cases b <;> simp [List.filter_cons]

theorem filter_agenda :
    (agenda owed target l).filter (·.kind?.isSome) = occurrences owed target l := by
  simp only [agenda, List.filter_append, filter_ite]
  simp [occurrences, LifecycleEvent.kind?]

/-- Whether an event is on the agenda is a matter of its kind. -/
theorem filter_occurrences (p : Option EventKind → Bool) :
    (occurrences owed target l).filter (fun e => p e.kind?) =
      occurrences (fun k => owed k && p (some k)) target l := by
  simp only [occurrences, List.filter_append, filter_ite, Bool.and_right_comm _ l]
  rfl

/-- No kind comes twice. -/
theorem nodup_kinds_occurrences : ((occurrences owed target l).map LifecycleEvent.kind?).Nodup := by
  unfold occurrences
  generalize owed .added = a, (owed .click && l) = c, (owed .unlockComplete && l) = u,
    owed .removed = r
  cases a <;> cases c <;> cases u <;> cases r <;> simp [LifecycleEvent.kind?]

theorem nodup_occurrences : (occurrences owed target l).Nodup :=
  List.Pairwise.of_map LifecycleEvent.kind? (fun _ _ hne heq => hne (congrArg _ heq))
    nodup_kinds_occurrences

/-- An event on the agenda is of a kind that is owed, and a click has its target. -/
theorem owed_of_mem_agenda {e : LifecycleEvent} {k : EventKind} (he : e ∈ agenda owed target l)
    (hk : e.kind? = some k) : owed k = true ∧ (k = .click → e = .click target) := by
  simp only [agenda, List.mem_append] at he
  rcases he with ((((he | he) | he) | he) | he) | he
  all_goals
    split at he
    · obtain rfl := List.mem_singleton.1 he
      cases hk <;> simp_all
    · cases he

/-- With the level on, all that is owed is on the agenda. -/
theorem exists_mem_agenda {k : EventKind} (hk : owed k = true) (hl : l = true) :
    ∃ e ∈ agenda owed target l, e.kind? = some k := by
  cases k with
  | added => exact ⟨.added, by simp [agenda, hk], rfl⟩
  | removed => exact ⟨.removed, by simp [agenda, hk], rfl⟩
  | click => exact ⟨.click target, by simp [agenda, hk, hl], rfl⟩
  | unlockComplete => exact ⟨.unlockComplete, by simp [agenda, hk, hl], rfl⟩

/-! ## What is kept of an agenda -/

/-- Of a list whose keys are all different, the end is what shares its keys. -/
theorem filter_of_nodup {α β : Type} [BEq β] [LawfulBEq β] (f : α → β) {xs ys : List α}
    (h : ((xs ++ ys).map f).Nodup) : (xs ++ ys).filter (fun e => ys.any (f · == f e)) = ys := by
  rw [List.map_append, List.nodup_append] at h
  obtain ⟨-, -, hdisjoint⟩ := h
  have hxs : xs.filter (fun e => ys.any (f · == f e)) = [] := by
    refine List.filter_eq_nil_iff.2 fun x hx hany => ?_
    obtain ⟨y, hy, hxy⟩ := List.any_eq_true.1 hany
    exact hdisjoint _ (List.mem_map_of_mem hx) _ (List.mem_map_of_mem hy) (beq_iff_eq.1 hxy).symm
  have hys : ys.filter (fun e => ys.any (f · == f e)) = ys :=
    List.filter_eq_self.2 fun y hy => List.any_eq_true.2 ⟨y, hy, beq_self_eq_true _⟩
  rw [List.filter_append, hxs, hys, List.nil_append]

theorem occurrences_eq_append (h : agenda owed target l = done ++ kept) :
    occurrences owed target l = done.filter (·.kind?.isSome) ++ kept.filter (·.kind?.isSome) := by
  rw [← filter_agenda, h, List.filter_append]

/-- What is received and what is kept share no kind. -/
theorem nodup_kinds_append (h : agenda owed target l = done ++ kept) :
    ((done.filter (·.kind?.isSome) ++ kept.filter (·.kind?.isSome)).map
      LifecycleEvent.kind?).Nodup := by
  rw [← occurrences_eq_append h]
  exact nodup_kinds_occurrences

/-- What is kept of an agenda is laid out by its own kinds. -/
theorem kept_eq (h : agenda owed target l = done ++ kept) : kept.filter (·.kind?.isSome) =
    occurrences (fun k => kept.any (·.kind? == some k)) target l := by
  have hkept := filter_of_nodup LifecycleEvent.kind? (nodup_kinds_append h)
  rw [← occurrences_eq_append h] at hkept
  have hkinds : (occurrences owed target l).filter
      (fun e => (kept.filter (·.kind?.isSome)).any (·.kind? == e.kind?)) =
      occurrences (fun k => owed k && (kept.filter (·.kind?.isSome)).any (·.kind? == some k))
        target l := filter_occurrences fun k? => (kept.filter (·.kind?.isSome)).any (·.kind? == k?)
  rw [← hkept, hkinds]
  congr 1
  funext k
  have hany : (kept.filter (·.kind?.isSome)).any (·.kind? == some k) =
      kept.any (·.kind? == some k) := by
    rw [List.any_filter]
    congr 1
    funext e
    cases e.kind? <;> simp
  refine (congrArg (owed k && ·) hany).trans (Bool.and_eq_right_iff_imp.2 fun hk => ?_)
  obtain ⟨e, he, hek⟩ := List.any_eq_true.1 hk
  have hmem : e ∈ agenda owed target l := by simp [h, he]
  exact (owed_of_mem_agenda hmem (beq_iff_eq.1 hek)).1

/-- Without listening there are fewer events on the agenda. -/
theorem occurrences_sublist {l' : Bool} (h : l' = true → l = true) :
    (occurrences owed target l').Sublist (occurrences owed target l) := by
  have hitem : ∀ (b : Bool) (e : LifecycleEvent),
      (if b && l' then [e] else []).Sublist (if b && l then [e] else []) := by
    intro b e
    cases l' with
    | false => simp
    | true => simp [h rfl]
  exact (((List.Sublist.refl _).append (hitem _ _)).append (hitem _ _)).append (.refl _)

/-- To turn the level off before a removal makes a difference to a click and an unlock only. -/
theorem occurrences_eq_iff (removed : Bool) :
    occurrences owed target (l && !removed) = occurrences owed target l ↔
      ¬(l = true ∧ removed = true ∧ (owed .click = true ∨ owed .unlockComplete = true)) := by
  unfold occurrences
  generalize owed .added = a, owed .click = c, owed .unlockComplete = u, owed .removed = r
  cases l <;> cases removed <;> cases a <;> cases c <;> cases u <;> cases r <;> simp

/-- With the level on, a kind is kept if it was owed and is not received. -/
theorem any_kept_iff (h : agenda owed target l = done ++ kept) (hl : l = true) (k : EventKind) :
    kept.any (·.kind? == some k) = true ↔
      owed k = true ∧ ∀ e ∈ done.filter (·.kind?.isSome), e.kind? ≠ some k := by
  rw [List.any_eq_true]
  constructor
  · rintro ⟨e, he, hk⟩
    have hk := beq_iff_eq.1 hk
    have hmem : e ∈ agenda owed target l := by simp [h, he]
    refine ⟨(owed_of_mem_agenda hmem hk).1, fun e' he' hk' => ?_⟩
    have hnodup := nodup_kinds_append h
    rw [List.map_append, List.nodup_append] at hnodup
    have hkept : e ∈ kept.filter (·.kind?.isSome) := List.mem_filter.2 ⟨he, by simp [hk]⟩
    exact hnodup.2.2 _ (List.mem_map_of_mem he') _ (List.mem_map_of_mem hkept) (hk'.trans hk.symm)
  · rintro ⟨hk, hnone⟩
    obtain ⟨e, he, hek⟩ : ∃ e ∈ agenda owed target l, e.kind? = some k := exists_mem_agenda hk hl
    rw [h] at he
    rcases List.mem_append.1 he with he | he
    · exact absurd hek (hnone e (List.mem_filter.2 ⟨he, by simp [hek]⟩))
    · exact ⟨e, he, beq_iff_eq.2 hek⟩

/-! ### Made up for -/

/-- What is received of an agenda, and then of what was kept of it without the level, is part of
the agenda. -/
theorem resumed_sublist (h : agenda owed target l = done ++ kept) (removed : Bool) :
    (done.filter (·.kind?.isSome) ++ occurrences (fun k => kept.any (·.kind? == some k)) target
      (l && !removed)).Sublist ((done ++ kept).filter (·.kind?.isSome)) := by
  rw [List.filter_append, kept_eq h]
  exact (occurrences_sublist fun hl => (Bool.and_eq_true_iff.1 hl).1).append_left _

/-- It is all of the agenda, unless the level was turned off for a removal, and a click or an unlock
was kept. -/
theorem resumed_eq_iff (h : agenda owed target l = done ++ kept) (removed : Bool) :
    done.filter (·.kind?.isSome) ++ occurrences (fun k => kept.any (·.kind? == some k)) target
        (l && !removed) = (done ++ kept).filter (·.kind?.isSome) ↔
      ¬(l = true ∧ removed = true ∧ (kept.any (·.kind? == some .click) = true ∨
        kept.any (·.kind? == some .unlockComplete) = true)) := by
  rw [List.filter_append, kept_eq h, List.append_cancel_left_eq, occurrences_eq_iff]

end Replay

/-! ## Queues of what is kept -/

namespace Pending

variable {p q : Pending} {owed : EventKind → Bool} {target : ClickTarget} {l : Bool}
  {done kept : List LifecycleEvent}

theorem Alike.contains_kept (h : q.Alike (({} : Pending).recount kept)) (k : EventKind) :
    q.contains k = kept.any (·.kind? == some k) := by
  have hkinds : q.contains k = (({} : Pending).recount kept).contains k := by
    rw [contains, h.kinds]
    rfl
  rw [hkinds, contains_recount]
  exact Bool.false_or _

/-- A click that is kept waits with the target that all of the clicks that are kept have. -/
theorem Alike.target_eq (h : q.Alike (({} : Pending).recount kept))
    (honly : ∀ e ∈ kept, e.kind? = some .click → e = .click target)
    (hclick : q.contains .click = true) : q.target = some target := by
  rw [h.contains_kept, List.any_eq_true] at hclick
  obtain ⟨e, he, hk⟩ := hclick
  have hmem : target ∈ kept.filterMap LifecycleEvent.target? := by
    rw [honly e he (beq_iff_eq.1 hk)] at he
    exact List.mem_filterMap.2 ⟨_, he, rfl⟩
  rw [h.target, target_recount, lastTarget]
  obtain ⟨last, hlast⟩ : ∃ last, (kept.filterMap LifecycleEvent.target?).getLast? = some last :=
    Option.isSome_iff_exists.1 (List.getLast?_isSome.2 (List.ne_nil_of_mem hmem))
  obtain ⟨e', he', htarget⟩ := List.mem_filterMap.1 (List.mem_of_getLast? hlast)
  have hk' : e'.kind? = some .click := by
    cases e' <;> simp_all [LifecycleEvent.target?, LifecycleEvent.kind?]
  rw [honly e' he' hk'] at htarget
  rw [hlast, ← htarget]
  rfl

/-- A click that is kept of an agenda waits with its target. -/
theorem Alike.target_kept (h : q.Alike (({} : Pending).recount kept))
    (hsplit : Replay.agenda owed target l = done ++ kept) (hclick : q.contains .click = true) :
    q.target = some target :=
  h.target_eq (fun _ he hk => (Replay.owed_of_mem_agenda
    (by rw [hsplit]; exact List.mem_append_right _ he) hk).2 rfl) hclick

/-- The script of what is kept of an agenda is laid out by its kinds, at the level of then. -/
theorem Alike.filter_script (h : q.Alike (({} : Pending).recount kept))
    (hsplit : Replay.agenda owed target l = done ++ kept) :
    q.script.filter (·.kind?.isSome) =
      Replay.occurrences (fun k => kept.any (·.kind? == some k)) target q.listening := by
  rw [script_eq_agenda fun hclick => h.target_kept hsplit hclick, Replay.filter_agenda,
    funext h.contains_kept]

end Pending

/-! ## Two sessions -/

variable {W : Type} {host host' : Host W} {s : System W}

/-- Although a removal waits behind it and the level is on, there is a click or an unlock that was
not among these events. -/
def Muted (p : Pending) (es : List LifecycleEvent) : Prop :=
  p.listening = true ∧ p.contains .removed = true ∧
    ∃ k, (k = .click ∨ k = .unlockComplete) ∧ p.contains k = true ∧ ∀ e ∈ es, e.kind? ≠ some k

/-- With a removal pending, a click or an unlock that is kept of an agenda is muted. -/
theorem muted_iff {p : Pending} {target : ClickTarget} {done kept : List LifecycleEvent}
    (hsplit : Replay.agenda p.contains target p.listening = done ++ kept) :
    Muted p (done.filter (·.kind?.isSome)) ↔
      p.listening = true ∧ p.contains .removed = true ∧
        (kept.any (·.kind? == some .click) = true ∨
          kept.any (·.kind? == some .unlockComplete) = true) := by
  refine and_congr_right fun hl => and_congr_right fun _ => ?_
  rw [Replay.any_kept_iff hsplit hl, Replay.any_kept_iff hsplit hl]
  simp only [or_and_right, exists_or, exists_eq_left]

/-- What is dispatched to the session that a connection introduces, whatever the host. -/
theorem dispatches_of_connected (hs : Reachable host s) {a : Step W} {token : BindToken}
    {transport : TransportId} (h : s.command? a = some (.connected token transport))
    (ha : s.loop.attempt = some token) (hst : s.loop.state = .connecting) (host' : Host W) :
    ∃ done kept, s.pending.script = done ++ kept ∧
      (s.step host' a).journal.dispatches token =
        done.map (·, true) ++ kept.head?.toList.map (·, false) ∧
      (s.step host' a).pending.Alike (({} : Pending).recount kept) := by
  obtain ⟨done, kept, hscript, hsent, hwaits⟩ := System.shelved_step host' h ha hst
  have hattended := hs.attended token
  have hnone := (hattended.served.unplanned (hattended.seeking hst ha)).2
  have hdispatches := Journal.dispatches_of_sent hsent
  rw [hnone, List.nil_append] at hdispatches
  exact ⟨done, kept, hscript, hdispatches, hwaits⟩

/-- What an accepting session receives is the whole script. -/
theorem received_of_accepting (hs : Reachable host s) {a : Step W} {token : BindToken}
    {transport : TransportId} (h : s.command? a = some (.connected token transport))
    (ha : s.loop.attempt = some token) (hst : s.loop.state = .connecting)
    (hall : ∀ d ∈ (s.step host' a).journal.dispatches token, d.2 = true) :
    Replay.received ((s.step host' a).journal.dispatches token) =
      s.pending.script.filter (·.kind?.isSome) := by
  obtain ⟨done, kept, hscript, hdispatches, -⟩ := dispatches_of_connected hs h ha hst host'
  obtain rfl : kept = [] := by
    cases kept with
    | nil => rfl
    | cons e kept => cases hall (e, false) (by simp [hdispatches])
  rw [hdispatches, Replay.received_append, hscript, List.append_nil]

/-- What two sessions are told together, if the first refuses an event of its replay, at any point,
and the second, introduced before anybody addresses the extension again, accepts all of its own. It
is part of what one accepting session would have been told instead of the first, in the same order
and with the same click, and nothing of it is told twice. It is all of it, unless a click or an
unlock that the first session was not told is muted by the removal behind it. -/
theorem resumed_replay (hs : Reachable host s) {a b : Step W} {as : List (Step W)}
    {token token' : BindToken} {transport transport' : TransportId}
    (ha : s.command? a = some (.connected token transport)) (hattempt : s.loop.attempt = some token)
    (hst : s.loop.state = .connecting)
    (hquiet : (s.step host a).journal.GrowsBy (·.isAddress = false)
      ((s.step host a).run host as).journal)
    (hb : ((s.step host a).run host as).command? b = some (.connected token' transport'))
    (hattempt' : ((s.step host a).run host as).loop.attempt = some token')
    (hst' : ((s.step host a).run host as).loop.state = .connecting)
    (hsecond : ∀ d ∈ (((s.step host a).run host as).step host b).journal.dispatches token',
      d.2 = true)
    (hone : ∀ d ∈ (s.step host' a).journal.dispatches token, d.2 = true) :
    (Replay.received ((s.step host a).journal.dispatches token) ++ Replay.received
      ((((s.step host a).run host as).step host b).journal.dispatches token')).Sublist
        (Replay.received ((s.step host' a).journal.dispatches token)) ∧
    (Replay.received ((s.step host' a).journal.dispatches token)).Nodup ∧
    (Replay.received ((s.step host a).journal.dispatches token) ++ Replay.received
      ((((s.step host a).run host as).step host b).journal.dispatches token') =
        Replay.received ((s.step host' a).journal.dispatches token) ↔
      ¬Muted s.pending (Replay.received ((s.step host a).journal.dispatches token))) := by
  obtain ⟨done, kept, hscript, hfirst, hwaits⟩ := dispatches_of_connected hs ha hattempt hst host
  obtain ⟨failed, hintroduced⟩ := System.introduced_step host ha hattempt hst
  have hlater : Reachable host ((s.step host a).run host as) := (hs.step a).run as
  obtain ⟨target, hclick⟩ := hs.exists_target
  have hsplit := (Pending.script_eq_agenda hclick).symm.trans hscript
  -- what the second session receives is the script of what the first one left waiting
  rw [received_of_accepting hs ha hattempt hst hone,
    received_of_accepting hlater hb hattempt' hst' hsecond, hfirst, Replay.received_append,
    System.pending_of_unaddressed hquiet, hwaits.filter_script hsplit, hintroduced.listening, hscript,
    muted_iff hsplit]
  refine ⟨Replay.resumed_sublist hsplit _, ?_, Replay.resumed_eq_iff hsplit _⟩
  rw [List.filter_append, ← Replay.occurrences_eq_append hsplit]
  exact Replay.nodup_occurrences

/-- A supervisor with a click waiting, when a connection is reported to a transport that is about
to fail. -/
def Scenario.flaky : System World :=
  (System.spawn ⟨⟨0⟩, ⟨"music"⟩, ⟨"player"⟩⟩ {}
    { transports := [{ budget := some 2 }, {}] }).run Scenario.host
    [.act (.tell .added), .act (.tell (.click ⟨7⟩)), .act (.tell .startListening),
      .act (.deed (.ask (.setEnabled true))), .turn, .turn, .turn, .turn,
      .act (.deed (.report (.connected ⟨1⟩ ⟨0⟩)))]

theorem Scenario.reachable_flaky : Reachable Scenario.host flaky :=
  (Reachable.spawn _ _ _ rfl).run _

/-- The retry, up to the report of its connection. -/
def Scenario.again : List (Step World) :=
  [.wait 1000, .fire ⟨1, 1000⟩, .turn, .act (.deed (.report (.connected ⟨2⟩ ⟨1⟩)))]

/-- The same collaborators, with transports that accept everything. -/
def Scenario.accepting : Host World :=
  { Scenario.host with dispatch := fun w _ _ => { answer := .ok (), world := w } }

theorem flaky_click_is_resumed :
    Replay.received ((Scenario.flaky.step Scenario.host .turn).journal.dispatches ⟨1⟩) ++
      Replay.received ((((Scenario.flaky.step Scenario.host .turn).run Scenario.host
        Scenario.again).step Scenario.host .turn).journal.dispatches ⟨2⟩) =
      [.added, .click ⟨7⟩] := by
  have hquiet : (Scenario.flaky.step Scenario.host .turn).journal.GrowsBy (·.isAddress = false)
      ((Scenario.flaky.step Scenario.host .turn).run Scenario.host Scenario.again).journal :=
    ⟨((Scenario.flaky.step Scenario.host .turn).run Scenario.host Scenario.again).journal.take 7,
      rfl, by decide⟩
  have hfirst : Scenario.flaky.command? .turn = some (.connected ⟨1⟩ ⟨0⟩) := rfl
  have hagain : ((Scenario.flaky.step Scenario.host .turn).run Scenario.host
      Scenario.again).command? .turn = some (.connected ⟨2⟩ ⟨1⟩) := rfl
  have hsecond : ∀ d ∈ (((Scenario.flaky.step Scenario.host .turn).run Scenario.host
      Scenario.again).step Scenario.host .turn).journal.dispatches ⟨2⟩, d.2 = true := by decide
  have hone : ∀ d ∈ (Scenario.flaky.step Scenario.accepting .turn).journal.dispatches ⟨1⟩,
      d.2 = true := by decide
  obtain ⟨-, -, hall⟩ := resumed_replay Scenario.reachable_flaky hfirst rfl rfl hquiet hagain rfl
    rfl hsecond hone
  have hunmuted : ¬Muted Scenario.flaky.pending
      (Replay.received ((Scenario.flaky.step Scenario.host .turn).journal.dispatches ⟨1⟩)) :=
    fun h => by cases h.2.1
  exact (hall.2 hunmuted).trans rfl

/-- A supervisor that listens, with a click waiting and a removal behind it, when a connection is
reported to a transport that is gone. -/
def Scenario.silenced : System World :=
  (System.spawn ⟨⟨0⟩, ⟨"music"⟩, ⟨"player"⟩⟩ {}
    { transports := [{ alive := false }, {}] }).run Scenario.host
    [.act (.tell .startListening), .act (.tell (.click ⟨7⟩)), .act (.tell .removed),
      .act (.deed (.ask (.setEnabled true))), .turn, .turn, .turn, .turn,
      .act (.deed (.report (.connected ⟨1⟩ ⟨0⟩)))]

/-- Its click is lost: the second session is told of the removal only. -/
theorem silenced_click_is_lost :
    Replay.received ((Scenario.silenced.step Scenario.accepting .turn).journal.dispatches ⟨1⟩) =
      [.click ⟨7⟩, .removed] ∧
    ¬Replay.received ((Scenario.silenced.step Scenario.host .turn).journal.dispatches ⟨1⟩) ++
      Replay.received ((((Scenario.silenced.step Scenario.host .turn).run Scenario.host
        Scenario.again).step Scenario.host .turn).journal.dispatches ⟨2⟩) =
      Replay.received
        ((Scenario.silenced.step Scenario.accepting .turn).journal.dispatches ⟨1⟩) := by
  have hone : Replay.received
      ((Scenario.silenced.step Scenario.accepting .turn).journal.dispatches ⟨1⟩) =
        [.click ⟨7⟩, .removed] := rfl
  have htwo : Replay.received
      ((Scenario.silenced.step Scenario.host .turn).journal.dispatches ⟨1⟩) ++
      Replay.received ((((Scenario.silenced.step Scenario.host .turn).run Scenario.host
        Scenario.again).step Scenario.host .turn).journal.dispatches ⟨2⟩) = [.removed] := rfl
  refine ⟨hone, ?_⟩
  rw [hone, htwo]
  decide

end Supervision
