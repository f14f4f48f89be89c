import Supervision.Proofs.Books

/-!
# Bindings are given back

Each handle that the binder gives for an accepted bind is given back exactly once, in the order
in which they came, and only one is ever outstanding: it is the loop's binding, and the binder is
not asked for another before it was given back (`bindings_are_given_back`). The tokens of the
handles are the binder's own affair.
-/

namespace Supervision

variable {W : Type} {host : Host W} {s t : System W}

/-! ## Handles in the journal -/

namespace Fact

/-- The handle that the binder gave. -/
def granted? : Fact → Option BindHandle
  | .call (.bind _ (.ok b)) => some b
  | _ => none

/-- The handle that the binder was given back. -/
def returned? : Fact → Option BindHandle
  | .call (.unbind b) => some b
  | _ => none

variable {f : Fact}

/-- Only binds are granted a handle. -/
theorem granted?_eq_none (h : f.isBind = false) : f.granted? = none := by
  unfold granted?
  split
  · cases h
  · rfl

/-- What is given back is an entry in the books. -/
theorem returned?_eq_none (h : f.isEntry = false) : f.returned? = none := by
  unfold returned?
  split
  · cases h
  · rfl

end Fact

namespace Journal

/-- The handles that the binder gave, in order. -/
def granted (j : Journal) : List BindHandle := j.chronicle Fact.granted?

/-- The handles that the binder was given back, in order. -/
def returned (j : Journal) : List BindHandle := j.chronicle Fact.returned?

variable {r : Record} {j : Journal}

theorem granted_cons : granted (r :: j) = j.granted ++ r.fact.granted?.toList := chronicle_cons ..

theorem returned_cons : returned (r :: j) = j.returned ++ r.fact.returned?.toList :=
  chronicle_cons ..

theorem granted_of_growsBy {j' : Journal} (h : j.GrowsBy (·.isBind = false) j') :
    j'.granted = j.granted :=
  chronicle_of_growsBy h fun _ => Fact.granted?_eq_none

theorem returned_of_growsBy {j' : Journal} (h : j.GrowsBy (·.isEntry = false) j') :
    j'.returned = j.returned :=
  chronicle_of_growsBy h fun _ => Fact.returned?_eq_none

end Journal

/-! ## The balance -/

/-- What was given back and the binding at hand are what the binder gave, and it was only asked
while nothing was outstanding. -/
structure Balanced (s : System W) : Prop where
  balance : s.journal.returned ++ s.loop.binding.toList = s.journal.granted
  free : s.journal.Always fun f older => f.isBind = true → older.returned = older.granted

namespace Balanced

/-- Without an entry the balance stands. -/
theorem of_unbooked (hs : Balanced s) (h : Unbooked s t) : Balanced t where
  balance := by
    rw [h.binding, Journal.returned_of_growsBy h.journal,
      Journal.granted_of_growsBy (h.journal.imp fun _ => Fact.isBind_eq_false)]
    exact hs.balance
  free := h.journal.induct hs.free fun r j hr hj =>
    Journal.always_cons.2 ⟨fun hb => by simp [Fact.isBind_eq_false hr] at hb, hj⟩

/-- A fact that is not about binds leaves the balance as it is. -/
theorem skip (hs : Balanced s) {r : Record} (hj : t.journal = r :: s.journal)
    (hb : t.loop.binding = s.loop.binding) (hgranted : r.fact.granted? = none)
    (hreturned : r.fact.returned? = none) (hbind : r.fact.isBind = false) : Balanced t where
  balance := by
    rw [hj, hb, Journal.returned_cons, Journal.granted_cons, hgranted, hreturned]
    simpa using hs.balance
  free := by
    rw [hj]
    exact Journal.always_cons.2 ⟨fun h => by simp [hbind] at h, hs.free⟩

/-- An accepted bind adds the handle that is at hand, and to give it back takes it away again. -/
theorem of_entry {r : Bool} (hs : Balanced s) (h : Entry s r t) : Balanced t := by
  -- with no binding at hand, nothing is outstanding
  have settled (hb : s.loop.binding = none) : s.journal.returned = s.journal.granted := by
    simpa [hb] using hs.balance
  cases h with
  | reset => exact hs.skip rfl rfl rfl rfl rfl
  | @bound q b _ hb =>
    refine ⟨?_, Journal.always_cons.2 ⟨fun _ => settled hb, hs.free⟩⟩
    simp only [System.record, Journal.returned_cons, Journal.granted_cons, settled hb]
    simp [Fact.returned?, Fact.granted?]
  | failed _ hb =>
    refine ⟨?_, Journal.always_cons.2 ⟨fun _ => settled hb, hs.free⟩⟩
    simp only [System.record, Journal.returned_cons, Journal.granted_cons, settled hb, hb]
    simp [Fact.returned?, Fact.granted?]
  | unbound hb =>
    refine ⟨?_, Journal.always_cons.2 ⟨fun h => absurd h Bool.false_ne_true, hs.free⟩⟩
    have h := hs.balance
    rw [hb] at h
    simp only [System.record, Journal.returned_cons, Journal.granted_cons, ← h]
    simp [Fact.returned?, Fact.granted?]
  | subscribed => exact hs.skip rfl rfl rfl rfl rfl
  | refused => exact hs.skip rfl rfl rfl rfl rfl
  | unsubscribed => exact hs.skip rfl rfl rfl rfl rfl
  | published => exact hs.skip rfl rfl rfl rfl rfl

end Balanced

/-- In each reachable state the handles balance. -/
theorem Reachable.balanced (hs : Reachable host s) : Balanced s := by
  refine hs.books_induct (fun x c w => ?_) (fun _ _ h hs => hs.of_unbooked h)
    fun _ _ _ h hs => hs.of_entry h
  exact ⟨rfl, Journal.always_cons.2 ⟨nofun, Journal.always_nil⟩⟩

/-- Once the loop has stopped there is no connection, and none is being made. -/
theorem Reachable.isIdle_of_stopped (hs : Reachable host s) :
    s.phase = .stopped → s.loop.state.isIdle := by
  induction hs with
  | spawn => exact nofun
  | @step s _ a ih =>
    have torn (u : System W) : ∀ v : System W, v.loop = (u.teardown host).publish.loop →
        v.loop.state.isIdle := fun v hv => by
      rw [hv, System.loop_publish, System.loop_teardown]
      rfl
    have h := System.turned_step host s a
    generalize s.command? a = c?, s.step host a = t at h ⊢
    cases h with
    | offstage h =>
      rw [h.phase, h.loop]
      exact ih
    | started => exact nofun
    | @processed c rest hp hi hc =>
      have h := (System.process_moves host { s with inbox := rest } hc).phase_eq
      rw [h]
      exact fun hstopped => by cases hp.symm.trans hstopped
    | shutDown => exact fun _ => torn _ _ rfl
    | closed => exact fun _ => torn _ _ rfl

/-- The handles that were given back, and then the one that the loop has, are those that the
binder gave, in order. The binder is only asked for a bind when it was given back all of them,
and so it was once the loop has stopped. -/
theorem bindings_are_given_back (hs : Reachable host s) :
    s.journal.returned ++ s.loop.binding.toList = s.journal.granted ∧
    s.journal.Always (fun f older => f.isBind = true → older.returned = older.granted) ∧
    (s.phase = .stopped → s.journal.returned = s.journal.granted) := by
  obtain ⟨hbalance, hfree⟩ := hs.balanced
  refine ⟨hbalance, hfree, fun hstopped => ?_⟩
  have hb := hs.poised.unburdened (hs.isIdle_of_stopped hstopped)
  simpa [hb] using hbalance

/-- A supervisor that lost one connection, was making another, and was shut down; its binder gives
handles with tokens of its own. -/
def Scenario.departed : System World :=
  (System.spawn ⟨⟨0⟩, ⟨"music"⟩, ⟨"player"⟩⟩ {} { mode := .foreign }).run Scenario.host
    [.turn, .act (.deed (.ask (.setEnabled true))), .turn,
      .act (.deed (.report (.disconnected ⟨1⟩))), .turn, .wait 1000, .fire ⟨1, 1000⟩, .turn,
      .act (.deed (.ask .shutdown)), .turn]

theorem Scenario.reachable_departed : Reachable Scenario.host departed :=
  (Reachable.spawn _ _ _ rfl).run _

theorem departed_gave_bindings_back :
    Scenario.departed.journal.granted = [⟨⟨2⟩⟩, ⟨⟨4⟩⟩] ∧
    Scenario.departed.journal.returned = [⟨⟨2⟩⟩, ⟨⟨4⟩⟩] := by
  have hgranted : Scenario.departed.journal.granted = [⟨⟨2⟩⟩, ⟨⟨4⟩⟩] := rfl
  obtain ⟨-, -, hstopped⟩ := bindings_are_given_back Scenario.reachable_departed
  exact ⟨hgranted, (hstopped rfl).trans hgranted⟩

end Supervision
