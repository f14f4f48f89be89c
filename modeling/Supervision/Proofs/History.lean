import Supervision.Proofs.Frame

/-!
# Speaking of the past

A journal is read backwards: its newest record stands first, and a record stands on the
journal as it was when the record was written. `Journal.Always` says that something was so
of each record, and `Journal.Since` that it was so of one, and something else of none after
it. `Journal.chronicle` tells in the order of the run what records have to say.

Events are sent by callers and by replays. What a caller sends is written down directly on
the call (`Journal.callerSpoke`), so the two can be told apart.
-/

namespace Supervision

namespace Journal

variable {p q : Fact → Journal → Prop} {r : Record} {j : Journal}

/-- `p` holds of each fact and of the journal it was written into. -/
def Always (p : Fact → Journal → Prop) (j : Journal) : Prop :=
  ∀ newer r older, j = newer ++ r :: older → p r.fact older

/-- `p` holds of a fact and of the journal it was written into, and `q` of none after it. -/
def Since (p q : Fact → Journal → Prop) (j : Journal) : Prop :=
  ∃ newer r older, j = newer ++ r :: older ∧ p r.fact older ∧
    ∀ later r' mid, newer = later ++ r' :: mid → ¬q r'.fact (mid ++ r :: older)

theorem always_nil : Always p [] := by
  intro newer r older h
  simp at h

/-- What always was so was so of the newest fact and of all before. -/
theorem always_cons : Always p (r :: j) ↔ p r.fact j ∧ Always p j := by
  constructor
  · exact fun h => ⟨h [] r j rfl, fun newer r' older hj => h (r :: newer) r' older (by simp [hj])⟩
  · rintro ⟨hr, hj⟩ (_ | ⟨_, newer⟩) r' older h
    · obtain ⟨rfl, rfl⟩ := List.cons.inj h
      exact hr
    · exact hj newer r' older (List.cons.inj h).2

theorem not_since_nil : ¬Since p q [] := by
  rintro ⟨newer, r, older, h, -⟩
  simp at h

/-- It is so of the newest fact, or was so before, and the newest fact did not end it. -/
theorem since_cons : Since p q (r :: j) ↔ p r.fact j ∨ ¬q r.fact j ∧ Since p q j := by
  constructor
  · rintro ⟨_ | ⟨_, newer⟩, r', older, h, hp, hq⟩
    · obtain ⟨rfl, rfl⟩ := List.cons.inj h
      exact .inl hp
    · obtain ⟨rfl, rfl⟩ := List.cons.inj h
      refine .inr ⟨hq [] _ newer rfl, newer, r', older, rfl, hp, fun later r'' mid hn => ?_⟩
      exact hq (r :: later) r'' mid (by simp [hn])
  · rintro (hp | ⟨hq, newer, r', older, rfl, hp, hn⟩)
    · exact ⟨[], r, j, rfl, hp, fun later r' mid h => by simp at h⟩
    · refine ⟨r :: newer, r', older, rfl, hp, ?_⟩
      rintro (_ | ⟨_, later⟩) r'' mid h
      · obtain ⟨rfl, rfl⟩ := List.cons.inj h
        exact hq
      · exact hn later r'' mid (List.cons.inj h).2

/-- What the facts of a journal have to say, the oldest first. -/
def chronicle {α : Type} (f : Fact → Option α) (j : Journal) : List α :=
  j.reverse.filterMap (f ·.fact)

/-- What the newest fact has to say comes last. -/
theorem chronicle_cons {α : Type} (f : Fact → Option α) (r : Record) (j : Journal) :
    chronicle f (r :: j) = chronicle f j ++ (f r.fact).toList := by
  cases h : f r.fact <;> simp [chronicle, h]

/-- Facts that have nothing to say leave the chronicle as it is. -/
theorem chronicle_of_growsBy {α : Type} {f : Fact → Option α} {p : Fact → Prop} {j' : Journal}
    (h : j.GrowsBy p j') (hf : ∀ x, p x → f x = none) : chronicle f j' = chronicle f j := by
  refine h.induct (motive := fun j' => chronicle f j' = chronicle f j) rfl fun r i hr hi => ?_
  rw [chronicle_cons, hf _ hr, hi, Option.toList_none, List.append_nil]

/-- Whether a caller has just told the extension something while a session was there: what
is sent next is the caller's. -/
def callerSpoke : Journal → Bool
  | ⟨_, .told _ (some _)⟩ :: _ => true
  | _ => false

/-- After a fact that tells of no event, nothing that is sent is a caller's. -/
theorem callerSpoke_of_growsBy {j' : Journal} (h : j.GrowsBy (·.isQuiet) j')
    (hj : j.callerSpoke = false) : j'.callerSpoke = false := by
  refine h.induct (motive := fun j => j.callerSpoke = false) hj fun r j hr _ => ?_
  unfold callerSpoke
  split
  · rename_i h
    obtain ⟨rfl, -⟩ := List.cons.inj h
    cases hr
  · rfl

end Journal

end Supervision
