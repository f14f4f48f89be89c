import Supervision.Proofs.Reading
import Supervision.Wire

/-!
# The way over the wire

Whatever is sent as JSON text comes back as it was. `Wire.Lawful` says of a type what this
takes: the JSON of its values is plain, so that its text is read back as that JSON, and the
value is recovered from the JSON. Each type of the wire format is lawful, and
`Wire.decode_encode` needs no more.

Records are the case with an argument of its own. `record` lists fields with their values,
some of which may be missing, and makes the object; under distinct names each field is found
again, and what is missing is found to be missing (`fields?_record`).
-/

namespace Supervision

/-! ## UUIDs -/

namespace Uuid

open Hexadecimal

theorem mapM_value?_digit (ds : List (Fin 16)) : (ds.map digit).mapM value? = some ds := by
  induction ds with
  | nil => rfl
  | cons d ds ih => simp [value?_digit, ih]

/-- A UUID is read from its digits. -/
theorem ofDigits?_digits (u : Uuid) : ofDigits? (u.digits.map digit) = some u := by
  rw [ofDigits?, mapM_value?_digit]
  simp [u.length_digits]

/-- Hyphens are read between groups of the right lengths. -/
theorem ofHyphenated?_groups {a b c d e : List Char} (ha : a.length = 8) (hb : b.length = 4)
    (hc : c.length = 4) (hd : d.length = 4) (he : e.length = 12) :
    ofHyphenated? (a ++ '-' :: b ++ '-' :: c ++ '-' :: d ++ '-' :: e) =
      ofDigits? (a ++ b ++ c ++ d ++ e) := by
  simp [ofHyphenated?, ha, hb, hc, hd, he, List.drop_append, List.drop_of_length_le]

/-- The groups make up all of the digits. -/
theorem groups_append (cs : List Char) :
    cs.take 8 ++ (cs.drop 8).take 4 ++ (cs.drop 12).take 4 ++ (cs.drop 16).take 4 ++
      cs.drop 20 = cs := by
  have h (i j : Nat) : (cs.drop i).take j ++ cs.drop (i + j) = cs.drop i := by
    rw [← List.drop_drop, List.take_append_drop]
  rw [List.append_assoc, h 16 4, List.append_assoc, h 12 4, List.append_assoc, h 8 4,
    List.take_append_drop]

/-- The hyphens that are written are those that are read. -/
theorem ofChars?_chars (u : Uuid) : ofChars? u.chars = some u := by
  have hlen : u.chars.length = 36 := by simp [chars, u.length_digits]
  rw [ofChars?, if_neg (by omega), if_pos hlen, chars, ofHyphenated?_groups, groups_append,
    ofDigits?_digits]
  all_goals simp [u.length_digits]

/-- A UUID is read from its text. -/
theorem ofText?_text (u : Uuid) : ofText? u.text = some u := by
  rw [ofText?, text, String.toList_ofList, ofChars?_chars]

end Uuid

namespace Wire

/-! ## Lawful types -/

/-- The JSON of each value has a text to be read from, and the value is recovered from it. -/
class Lawful (α : Type) [Wire α] : Prop where
  plain (a : α) : (toJson a).Plain
  ofJson?_toJson (a : α) : ofJson? (toJson a) = some a

/-- The text of a value spells its JSON, the value comes back from the text, and no two values
are sent as the same text. -/
structure RoundTrips (α : Type) [Wire α] : Prop where
  parse_encode (a : α) : Json.parse (encode a) = some (toJson a)
  decode_encode (a : α) : decode (encode a) = some a
  encode_inj (a b : α) : encode a = encode b ↔ a = b

section Lawful

variable {α : Type} [Wire α] [Lawful α]

/-- The text of a lawful value is read as its JSON. -/
theorem parse_encode (a : α) : Json.parse (encode a) = some (toJson a) :=
  (Lawful.plain a).parse_print

/-- A lawful value comes back from its text. -/
theorem decode_encode (a : α) : decode (encode a) = some a := by
  rw [decode, parse_encode, Option.bind_some, Lawful.ofJson?_toJson]

/-- So each lawful type round-trips. -/
theorem roundTrips : RoundTrips α where
  parse_encode := parse_encode
  decode_encode := decode_encode
  encode_inj a b := by
    refine ⟨fun h => ?_, congrArg encode⟩
    have hd := decode_encode a
    rw [h, decode_encode b] at hd
    exact (Option.some.inj hd).symm

@[simp]
theorem required?_toJson (a : α) : required? (some (toJson a)) = some a :=
  Lawful.ofJson?_toJson a

/-- An optional field is read, unless its value could be taken for a missing one. -/
theorem optional?_toJson {a : α} (h : toJson a ≠ .null) :
    optional? (some (toJson a)) = some (some a) := by
  rw [optional?, Lawful.ofJson?_toJson]
  · rfl
  · exact h

end Lawful

/-! ## Numbers, names and identifiers -/

/-- A number within its bound is read as it was written. -/
theorem naturalBelow?_natural {n bound : Nat} (h : n < bound) :
    naturalBelow? bound (natural n) = some n := by
  have hall : (Nat.toDigits 10 n).all Char.isDigit :=
    List.all_eq_true.2 fun d hd => Nat.isDigit_of_mem_toDigits (by decide) (by decide) hd
  have hn : natural? (natural n) = some n := by
    simp only [natural?, natural, String.toList_ofList, hall, if_true,
      Nat.ofDigitChars_toDigits (b := 10) (by decide) (by decide)]
  rw [naturalBelow?, hn, Option.filter_some, if_pos (by simpa using h)]

instance : Lawful UserId where
  plain _ := .natural _
  ofJson?_toJson u := by
    simp [toJson, ofJson?, naturalBelow?_natural u.id.toNat_lt_size]

instance : Lawful ClickTarget where
  plain _ := .natural _
  ofJson?_toJson t := by
    simp [toJson, ofJson?, naturalBelow?_natural t.raw.toNat_lt_size]

instance : Lawful PackageName where
  plain _ := .string _
  ofJson?_toJson _ := rfl

instance : Lawful ComponentName where
  plain _ := .string _
  ofJson?_toJson _ := rfl

instance : Lawful Uuid where
  plain _ := .string _
  ofJson?_toJson u := by simp [toJson, ofJson?, Json.string?, Uuid.ofText?_text]

instance : Lawful SubscriptionId where
  plain s := Lawful.plain s.uuid
  ofJson?_toJson s := by
    have h : ofJson? (toJson s) = (ofJson? (toJson s.uuid)).map SubscriptionId.mk := rfl
    rw [h, Lawful.ofJson?_toJson]
    rfl

instance : Lawful EventKind where
  plain _ := .string _
  ofJson?_toJson k := by cases k <;> rfl

instance : Lawful SignalKind where
  plain _ := .string _
  ofJson?_toJson k := by cases k <;> rfl

/-! ## Records -/

/-- The members of a record with these fields; a field without a value is left out. -/
def record (fs : List (String × Option Json)) : List (Option String × Json) :=
  fs.filterMap fun f => f.2.map fun v => (some f.1, v)

variable {fs : List (String × Option Json)}

/-- Each field of a record has a name. -/
theorem named_record {m : Option String × Json} (h : m ∈ record fs) : m.1.isSome := by
  obtain ⟨f, -, hf⟩ := List.mem_filterMap.1 h
  obtain ⟨v, -, rfl⟩ := Option.map_eq_some_iff.1 hf
  rfl

/-- The values under a name are those of the fields that bear it. -/
theorem valuesOf_record_cons (name : String) (f : String × Option Json)
    (fs : List (String × Option Json)) :
    valuesOf name (record (f :: fs)) =
      (if f.1 = name then f.2.toList else []) ++ valuesOf name (record fs) := by
  obtain ⟨n, v⟩ := f
  cases v <;> by_cases h : n = name <;> simp [record, valuesOf, h]

/-- No value is found under a name that no field bears. -/
theorem valuesOf_record_of_notMem {name : String} (h : name ∉ fs.map Prod.fst) :
    valuesOf name (record fs) = [] := by
  induction fs with
  | nil => rfl
  | cons f fs ih =>
    rw [List.map_cons, List.mem_cons, not_or] at h
    rw [valuesOf_record_cons, if_neg (Ne.symm h.1), ih h.2]
    rfl

/-- Under distinct names the values of a name are the value of its field. -/
theorem valuesOf_record (hn : (fs.map Prod.fst).Nodup) {f : String × Option Json} (hf : f ∈ fs) :
    valuesOf f.1 (record fs) = f.2.toList := by
  induction fs with
  | nil => cases hf
  | cons g fs ih =>
    rw [List.map_cons, List.nodup_cons] at hn
    rw [valuesOf_record_cons]
    rcases List.mem_cons.1 hf with rfl | hf
    · rw [if_pos rfl, valuesOf_record_of_notMem hn.1, List.append_nil]
    · have hne : g.1 ≠ f.1 := fun h => hn.1 (h ▸ List.mem_map_of_mem hf)
      rw [if_neg hne, ih hn.2 hf]
      rfl

/-- Under distinct names each field is found with its own value. -/
theorem field?_record (hn : (fs.map Prod.fst).Nodup) {f : String × Option Json} (hf : f ∈ fs) :
    field? f.1 (record fs) = some f.2 := by
  rw [field?, valuesOf_record hn hf]
  cases f.2 <;> rfl

/-- A record is read field by field. -/
theorem fields?_record {names : List String} (hn : names.Nodup) (hfs : fs.map Prod.fst = names) :
    fields? names (.object (record fs)) = some (fs.map Prod.snd) := by
  subst hfs
  have hall : (record fs).all fun m => m.1.isSome := List.all_eq_true.2 fun _ => named_record
  have hmap : ∀ gs ⊆ fs, (gs.map Prod.fst).mapM (fun name => field? name (record fs)) =
      some (gs.map Prod.snd) := by
    intro gs hgs
    induction gs with
    | nil => rfl
    | cons g gs ih =>
      rw [List.cons_subset] at hgs
      simp [field?_record hn hgs.1, ih hgs.2]
  rw [fields?, if_pos hall, hmap fs (List.Subset.refl fs)]

/-- A record of plain values is plain. -/
theorem plain_record (h : ∀ f ∈ fs, ∀ v ∈ f.2, v.Plain) : (Json.object (record fs)).Plain := by
  refine .object (fun _ => named_record) fun m hm => ?_
  obtain ⟨f, hf, hfm⟩ := List.mem_filterMap.1 hm
  obtain ⟨v, hv, rfl⟩ := Option.map_eq_some_iff.1 hfm
  exact h f hf v hv

/-- The fields of the record of an extension. -/
def extensionFields (x : Extension) : List (String × Option Json) :=
  [("user", some (toJson x.user)), ("package", some (toJson x.package)),
    ("component", some (toJson x.component))]

theorem toJson_extension (x : Extension) : toJson x = .object (record (extensionFields x)) := rfl

instance : Lawful Extension where
  plain x := by
    rw [toJson_extension]
    refine plain_record ?_
    simp [extensionFields, Lawful.plain]
  ofJson?_toJson x := by
    rw [toJson_extension]
    have h : fields? ["user", "package", "component"] (.object (record (extensionFields x))) = _ :=
      fields?_record (by decide) rfl
    simp only [ofJson?, h]
    simp [extensionFields]

/-- The fields of the record of a signal; a missing package is written as `null`. -/
def signalFields (s : Signal) : List (String × Option Json) :=
  [("kind", some (toJson s.kind)),
    ("package", some (match s.package with | some p => toJson p | none => .null))]

theorem toJson_signal (s : Signal) : toJson s = .object (record (signalFields s)) := rfl

instance : Lawful Signal where
  plain s := by
    rw [toJson_signal]
    refine plain_record ?_
    obtain ⟨kind, _ | p⟩ := s <;> simp [signalFields, Lawful.plain, Json.Plain.null]
  ofJson?_toJson s := by
    rw [toJson_signal]
    have h : fields? ["kind", "package"] (.object (record (signalFields s))) = _ :=
      fields?_record (by decide) rfl
    simp only [ofJson?, h]
    obtain ⟨kind, _ | p⟩ := s
    · simp [signalFields, optional?]
    · have hp : toJson p ≠ .null := by simp [toJson]
      simp [signalFields, optional?_toJson hp]

/-- The fields of the record of an event; only a click has a target. -/
def eventFields (e : LifecycleEvent) : List (String × Option Json) :=
  [("method", some (.string e.method)), ("target", e.target?.map toJson)]

/-- The methods are distinct, and a target is asked for with a click only. -/
theorem eventNamed?_method (e : LifecycleEvent) :
    eventNamed? e.method (e.target?.map toJson) = some e := by
  cases e with
  | click t =>
    have hm : (LifecycleEvent.click t).method = (LifecycleEvent.click ⟨0⟩).method := rfl
    have ht : (LifecycleEvent.click t).target?.map toJson = some (toJson t) := rfl
    unfold eventNamed?
    rw [if_pos hm, ht, required?_toJson]
    rfl
  | _ => rfl

theorem toJson_event (e : LifecycleEvent) : toJson e = .object (record (eventFields e)) := by
  cases e <;> rfl

instance : Lawful LifecycleEvent where
  plain e := by
    rw [toJson_event]
    refine plain_record ?_
    cases e <;> simp [eventFields, LifecycleEvent.target?, Json.Plain.string, Lawful.plain]
  ofJson?_toJson e := by
    rw [toJson_event]
    have h : fields? ["method", "target"] (.object (record (eventFields e))) = _ :=
      fields?_record (by decide) rfl
    simp only [ofJson?, h]
    simp [eventFields, constant?, eventNamed?_method]

/-! ## Every type -/

/-- Each type of the wire format comes back from its text as it was sent: every number of its
width, every text, every UUID, every signal with a package or without, every event with its
target. No two values of a type share a text. -/
theorem every_type_round_trips :
    RoundTrips UserId ∧ RoundTrips ClickTarget ∧ RoundTrips PackageName ∧
      RoundTrips ComponentName ∧ RoundTrips Extension ∧ RoundTrips SubscriptionId ∧
      RoundTrips EventKind ∧ RoundTrips SignalKind ∧ RoundTrips LifecycleEvent ∧
      RoundTrips Signal :=
  ⟨roundTrips, roundTrips, roundTrips, roundTrips, roundTrips, roundTrips, roundTrips,
    roundTrips, roundTrips, roundTrips⟩

end Wire

end Supervision
