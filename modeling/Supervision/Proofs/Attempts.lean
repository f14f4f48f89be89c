import Supervision.Proofs.Books

/-!
# The retry counter counts the attempts

The retry counter is the number of binds that were tried since it was last reset, and never
exceeds the limit of the configuration; so it never wraps around. It is reset by the commands of
`System.resets` and by nothing else (`retryCount_counts_attempts`).
-/

namespace Supervision

variable {W : Type} {host : Host W} {s t : System W}

namespace Journal

/-- How many binds were tried since the retry counter was last reset. -/
def attempts (j : Journal) : Nat := (j.takeWhile (!·.fact.isReset)).countP (·.fact.isBind)

variable {r : Record} {j : Journal}

theorem attempts_of_isReset (h : r.fact.isReset = true) : attempts (r :: j) = 0 := by
  simp [attempts, h]

/-- Up to the next reset, each bind counts. -/
theorem attempts_cons (h : r.fact.isReset = false) :
    attempts (r :: j) = j.attempts + if r.fact.isBind then 1 else 0 := by
  simp [attempts, h, List.countP_cons]

/-- What is no entry does not count. -/
theorem attempts_of_not_isEntry (h : r.fact.isEntry = false) : attempts (r :: j) = j.attempts := by
  have hreset : r.fact.isReset = false :=
    Bool.eq_false_iff.2 fun hr => by simp [Fact.isEntry_of_isReset hr] at h
  rw [attempts_cons hreset, Fact.isBind_eq_false h]
  rfl

end Journal

/-- The retry counter is the number of attempts, and at no time were there more than allowed. -/
structure Counted (s : System W) : Prop where
  count : s.loop.retryCount.toNat = s.journal.attempts
  limit : ∀ older : Journal, older <:+ s.journal → older.attempts ≤ s.config.maxRetries.toNat

namespace Counted

theorem of_unbooked (hs : Counted s) (h : Unbooked s t) : Counted t := by
  have hj : t.journal.attempts = s.journal.attempts ∧
      ∀ older : Journal, older <:+ t.journal → older.attempts ≤ s.config.maxRetries.toNat := by
    refine h.journal.induct (motive := fun j => j.attempts = s.journal.attempts ∧
      ∀ older : Journal, older <:+ j → older.attempts ≤ s.config.maxRetries.toNat)
      ⟨rfl, hs.limit⟩ ?_
    rintro r j hr ⟨hj, hlimit⟩
    have hcons : Journal.attempts (r :: j) = j.attempts := Journal.attempts_of_not_isEntry hr
    refine ⟨hcons.trans hj, fun older holder => ?_⟩
    rcases List.suffix_cons_iff.1 holder with rfl | holder
    · rw [hcons]
      exact hlimit j List.suffix_rfl
    · exact hlimit older holder
  refine ⟨?_, ?_⟩
  · rw [h.retryCount, hj.1]
    exact hs.count
  · rw [h.config]
    exact hj.2

/-- A fact is written down, and the counter is the number of attempts again. -/
theorem cons (hs : Counted s) {r : Record} (hj : t.journal = r :: s.journal)
    (hconfig : t.config = s.config) (hcount : t.loop.retryCount.toNat = t.journal.attempts)
    (hmax : t.loop.retryCount ≤ s.config.maxRetries) : Counted t := by
  refine ⟨hcount, fun older holder => ?_⟩
  rw [hconfig]
  rw [hj, List.suffix_cons_iff, ← hj] at holder
  rcases holder with rfl | holder
  · rw [← hcount]
    exact UInt32.le_iff_toNat_le.1 hmax
  · exact hs.limit older holder

/-- The counter does not exceed the limit. -/
theorem retryCount_le (hs : Counted s) : s.loop.retryCount ≤ s.config.maxRetries := by
  rw [UInt32.le_iff_toNat_le, hs.count]
  exact hs.limit s.journal List.suffix_rfl

/-- Below the limit the counter can be raised. -/
theorem toNat_succ {n max : UInt32} (h : n < max) : (n + 1).toNat = n.toNat + 1 ∧ n + 1 ≤ max := by
  have hlt := UInt32.lt_iff_toNat_lt.1 h
  have hsize := max.toNat_lt
  have hsucc : (n + 1).toNat = n.toNat + 1 := by
    rw [UInt32.toNat_add, UInt32.toNat_one]
    omega
  refine ⟨hsucc, UInt32.le_iff_toNat_le.2 ?_⟩
  omega

/-- A bind that was tried is counted. -/
theorem tried (hs : Counted s) (hmax : s.loop.retryCount < s.config.maxRetries) {r : Record}
    (hbind : r.fact.isBind = true) (hreset : r.fact.isReset = false)
    (hj : t.journal = r :: s.journal) (hconfig : t.config = s.config)
    (hcount : t.loop.retryCount = s.loop.retryCount + 1) : Counted t := by
  obtain ⟨hsucc, hle⟩ := toNat_succ hmax
  refine hs.cons hj hconfig ?_ (by rw [hcount]; exact hle)
  rw [hcount, hsucc, hj, Journal.attempts_cons hreset, if_pos hbind, hs.count]

/-- What is neither a bind nor a reset is not counted. -/
theorem skip (hs : Counted s) {r : Record} (hbind : r.fact.isBind = false)
    (hreset : r.fact.isReset = false) (hj : t.journal = r :: s.journal)
    (hconfig : t.config = s.config) (hcount : t.loop.retryCount = s.loop.retryCount) :
    Counted t := by
  refine hs.cons hj hconfig ?_ (by rw [hcount]; exact hs.retryCount_le)
  rw [hcount, hj, Journal.attempts_cons hreset, hbind, hs.count]
  rfl

/-- Each entry changes the counter as it changes the count. -/
theorem of_entry {r : Bool} (hs : Counted s) (h : Entry s r t) : Counted t := by
  cases h with
  | reset hn => exact hs.cons rfl rfl (Journal.attempts_of_isReset hn).symm (UInt32.zero_le)
  | bound hmax => exact hs.tried hmax rfl rfl rfl rfl rfl
  | failed hmax => exact hs.tried hmax rfl rfl rfl rfl rfl
  | _ => exact hs.skip rfl rfl rfl rfl rfl

end Counted

/-- In each reachable state the counter is the count. -/
theorem Reachable.counted (hs : Reachable host s) : Counted s := by
  refine hs.books_induct (fun x c w => ?_) (fun _ _ h hs => hs.of_unbooked h)
    fun _ _ _ h hs => hs.of_entry h
  have hempty : Counted ({ extension := x, config := c, world := w } : System W) := by
    refine ⟨rfl, fun older holder => ?_⟩
    rw [List.suffix_nil.1 holder]
    exact Nat.zero_le _
  exact hempty.of_unbooked (.note rfl)

/-- The retry counter is the number of binds that were tried since it was last reset. It never
exceeds the limit, and neither did the number of binds between two resets. A step resets the
counter exactly if it processes a command that does. -/
theorem retryCount_counts_attempts (hs : Reachable host s) :
    s.loop.retryCount.toNat = s.journal.attempts ∧
    s.loop.retryCount ≤ s.config.maxRetries ∧
    (∀ older : Journal, older <:+ s.journal → older.attempts ≤ s.config.maxRetries.toNat) ∧
    ∀ a : Step W,
      (∃ new, (s.step host a).journal = new ++ s.journal ∧ ∃ r ∈ new, r.fact.isReset = true) ↔
        ∃ c, s.command? a = some c ∧ s.resets c = true := by
  have h := hs.counted
  refine ⟨h.count, h.retryCount_le, h.limit, fun a => ?_⟩
  have hstep : Books _ s (s.step host a) := System.books_step hs.poised.toTidy a
  obtain ⟨new, hj, hnew⟩ := hstep.exists_journal_eq
  have hany : (s.command? a).any s.resets = true ↔
      ∃ c, s.command? a = some c ∧ s.resets c = true := by
    cases s.command? a <;> simp
  rw [← hany, ← hnew]
  constructor
  · rintro ⟨new', hj', hreset⟩
    obtain rfl : new' = new := List.append_cancel_right (hj'.symm.trans hj)
    exact List.any_eq_true.2 hreset
  · intro hreset
    exact ⟨new, hj, List.any_eq_true.1 hreset⟩

/-- A supervisor whose binder turned it down twice. -/
def Scenario.turnedDown : System World :=
  (System.spawn ⟨⟨0⟩, ⟨"music"⟩, ⟨"player"⟩⟩ {} { mode := .reject "busy" }).run Scenario.host
    [.turn, .act (.deed (.ask (.setEnabled true))), .turn, .wait 1000, .fire ⟨1, 1000⟩, .turn]

theorem Scenario.reachable_turnedDown : Reachable Scenario.host turnedDown :=
  (Reachable.spawn _ _ _ rfl).run _

theorem turnedDown_attempts :
    Scenario.turnedDown.journal.attempts = 2 ∧ 2 ≤ Scenario.turnedDown.config.maxRetries := by
  have hcount : Scenario.turnedDown.loop.retryCount = 2 := rfl
  obtain ⟨hattempts, hmax, -⟩ := retryCount_counts_attempts Scenario.reachable_turnedDown
  rw [hcount] at hattempts hmax
  exact ⟨hattempts.symm, hmax⟩

end Supervision
