import Supervision.Json.Printer
import Supervision.Json.Reader

/-!
# Reading what was printed

A printed value is read back as it was: `Plain.parse_print`. The values for which this
holds are those that this library prints, which have text for strings and whole numbers
for numbers; a garbled string has no text and a number is whatever its lexeme says.

The reader works from the front, so each part of it is shown to take exactly what the
printer wrote and to leave what stands behind. For strings anything may stand behind, since
the closing quote ends them. A number is ended only by what cannot continue it, and behind
a value inside another one there is a comma or a bracket: `Delimited`. `Legible` says of a
value that it is read off the front whenever the bound is twice its length, and is shown by
induction on the value; the bound of `parse` is larger.
-/

namespace Supervision.Json

/-! ## Strings -/

namespace Quoted

open Hexadecimal

variable {c : Char}

/-- The letter that escapes a character stands for that character, and never opens digits. -/
theorem escaped?_of_shortEscape? {e : Char} (h : shortEscape? c = some e) :
    escaped? e = some c ∧ e ≠ 'u' := by
  unfold shortEscape? at h
  split at h <;> cases h <;> decide

/-- Quotes and backslashes are escaped. -/
theorem ne_of_shortEscape? (h : shortEscape? c = none) : c ≠ '"' ∧ c ≠ '\\' := by
  constructor <;> rintro rfl <;> cases h

/-- The digits of a control character spell its number. -/
theorem unit?_control (hc : c.toNat < 0x20) :
    unit? '0' '0' (digit (lowest (c.toNat / 16))) (digit (lowest c.toNat)) = some c.toNat := by
  have h0 : value? '0' = some 0 := rfl
  simp only [unit?, h0, value?_digit, lowest, Fin.val_ofNat, Fin.val_zero, Nat.zero_mul,
    Nat.zero_add]
  congr 1
  omega

/-- Control characters lie below the surrogates. -/
theorem isHigh_control (hc : c.toNat < 0x20) : isHigh c.toNat = false := by
  simp only [isHigh, Bool.and_eq_false_iff, decide_eq_false_iff_not]
  omega

/-- A control character is no half of a surrogate pair. -/
theorem prepend_control (hc : c.toNat < 0x20) (t : Content) : prepend c.toNat t = t.cons c := by
  have hl : isLow c.toNat = false := by
    simp only [isLow, Bool.and_eq_false_iff, decide_eq_false_iff_not]
    omega
  rw [prepend, isHigh_control hc, hl, Char.ofNat_toNat]
  rfl

/-- An escape by a letter is read as the character that the letter stands for. -/
theorem decode_letter {e : Char} (he : escaped? e = some c) (hu : e ≠ 'u') (rest : List Char) :
    decode ('\\' :: e :: rest) = (decode rest).map fun p => (p.1.cons c, p.2) := by
  rw [decode, he]
  all_goals simp [hu]

/-- A character that needs no escape is read as itself. -/
theorem decode_itself (hq : c ≠ '"') (hb : c ≠ '\\') (hc : ¬c.toNat < 0x20) (rest : List Char) :
    decode (c :: rest) = (decode rest).map fun p => (p.1.cons c, p.2) := by
  rw [decode, if_neg (by simp [hb, hc])]
  all_goals simp [hq, hb]

section Digits

variable {a b c d : Char} {n : Nat}

/-- An escape by digits with no other one behind it. -/
theorem decode_lone_digits {rest : List Char}
    (hr : ∀ e f g h r, rest ≠ '\\' :: 'u' :: e :: f :: g :: h :: r) :
    decode ('\\' :: 'u' :: a :: b :: c :: d :: rest) =
      (unit? a b c d).bind fun n => (decode rest).map fun p => (prepend n p.1, p.2) := by
  rw [decode]
  · cases unit? a b c d <;> rfl
  · exact hr

/-- Without four digits the escape is not read. -/
theorem decode_no_digits (hn : unit? a b c d = none) (rest : List Char) :
    decode ('\\' :: 'u' :: a :: b :: c :: d :: rest) = none := by
  by_cases hr : ∃ e f g h r, rest = '\\' :: 'u' :: e :: f :: g :: h :: r
  · obtain ⟨e, f, g, h, r, rfl⟩ := hr
    rw [decode, hn]
  · rw [decode_lone_digits fun e f g h r h' => hr ⟨e, f, g, h, r, h'⟩, hn]
    rfl

/-- An escape by digits that does not open a pair puts its character in front, whatever
stands behind it. -/
theorem decode_digits (hn : unit? a b c d = some n) (hh : isHigh n = false) (rest : List Char) :
    decode ('\\' :: 'u' :: a :: b :: c :: d :: rest) =
      (decode rest).map fun p => (prepend n p.1, p.2) := by
  by_cases hr : ∃ e f g h r, rest = '\\' :: 'u' :: e :: f :: g :: h :: r
  · obtain ⟨e, f, g, h, r, rfl⟩ := hr
    rw [decode]
    -- The second escape is looked at before it is known that the first one stands alone.
    cases hm : unit? e f g h with
    | none => simp [hn, decode_no_digits hm r]
    | some m => simp [hn, hh]
  · rw [decode_lone_digits fun e f g h r h' => hr ⟨e, f, g, h, r, h'⟩, hn]
    rfl

end Digits

/-- A character is read as it was written, whatever stands behind it. -/
theorem decode_encodeChar (c : Char) (rest : List Char) :
    decode (encodeChar c ++ rest) = (decode rest).map fun p => (p.1.cons c, p.2) := by
  unfold encodeChar
  cases he : shortEscape? c with
  | some e =>
    obtain ⟨hc, hu⟩ := escaped?_of_shortEscape? he
    exact decode_letter hc hu rest
  | none =>
    obtain ⟨hq, hb⟩ := ne_of_shortEscape? he
    by_cases hc : c.toNat < 0x20
    · have hd := decode_digits (unit?_control hc) (isHigh_control hc) rest
      simpa [hc, prepend_control] using hd
    · simpa [hc] using decode_itself hq hb hc rest

/-- Text is read up to its closing quote as it was written. -/
theorem decode_encode (cs rest : List Char) :
    decode (encode cs ++ '"' :: rest) = some (some cs, rest) := by
  induction cs with
  | nil => simp [encode, decode]
  | cons c cs ih =>
    have hcons : encode (c :: cs) = encodeChar c ++ encode cs := rfl
    rw [hcons, List.append_assoc, decode_encodeChar, ih]
    rfl

end Quoted

namespace Printer

theorem elements_cons_cons (v e : Json) (es : List Json) :
    elements (v :: e :: es) = value v ++ ',' :: elements (e :: es) := by
  rw [elements]
  simp

theorem members_cons_cons (name : Option String) (v : Json) (m : Option String × Json)
    (ms : List (Option String × Json)) :
    members ((name, v) :: m :: ms) =
      quoted (name.getD "") ++ ':' :: value v ++ ',' :: members (m :: ms) := by
  rw [members]
  simp

end Printer

namespace Reader

variable {rest : List Char}

/-- A string is read up to its closing quote. -/
theorem string?_encode (s : String) (rest : List Char) :
    Reader.string? (Quoted.encode s.toList ++ '"' :: rest) = some (.string s, rest) := by
  rw [Reader.string?, Quoted.decode_encode]
  simp [ofContent]

theorem name?_quoted (s : String) (rest : List Char) :
    name? (Printer.quoted s ++ ':' :: rest) = some (some s, rest) := by
  have hd := Quoted.decode_encode s.toList (':' :: rest)
  simp [name?, Printer.quoted, skipBlanks, isBlank, hd]

/-! ## Numbers -/

/-- What may stand behind a value: nothing, a comma or a closing bracket. -/
inductive Delimited : List Char → Prop
  | nil : Delimited []
  | comma (cs : List Char) : Delimited (',' :: cs)
  | bracket (cs : List Char) : Delimited (']' :: cs)
  | brace (cs : List Char) : Delimited ('\x7d' :: cs)

/-- Numbers are written without a leading zero. -/
theorem eq_nil_of_toDigits {n : Nat} {ds : List Char} (h : Nat.toDigits 10 n = '0' :: ds) :
    ds = [] := by
  induction n using Nat.strongRecOn generalizing ds with
  | _ n ih =>
    by_cases hn : n < 10
    · rw [Nat.toDigits_of_lt_base hn] at h
      exact (List.cons.inj h).2.symm
    · rw [Nat.toDigits_of_base_le (by decide) (by omega)] at h
      cases hd : Nat.toDigits 10 (n / 10) with
      | nil => exact absurd hd Nat.toDigits_ne_nil
      | cons d ds' =>
        rw [hd] at h
        obtain ⟨rfl, -⟩ := List.cons.inj h
        -- The digits in front are a single zero, as they are for the number zero only.
        have hz : n / 10 = 0 := by
          rw [← Nat.ofDigitChars_toDigits (b := 10) (n := n / 10) (by decide) (by decide), hd,
            ih (n / 10) (by omega) hd]
          rfl
        omega

theorem exists_toDigits (n : Nat) : ∃ d ds, Nat.toDigits 10 n = d :: ds ∧ d.isDigit := by
  cases h : Nat.toDigits 10 n with
  | nil => exact absurd h Nat.toDigits_ne_nil
  | cons d ds =>
    have hmem : d ∈ Nat.toDigits 10 n := h ▸ List.mem_cons_self
    exact ⟨d, ds, rfl, Nat.isDigit_of_mem_toDigits (by decide) (by decide) hmem⟩

/-- Digits are read until something stands that is none. -/
theorem digits?_append {ds : List Char} (hds : ∀ d ∈ ds, d.isDigit) (hne : ds ≠ [])
    (hr : Delimited rest) : digits? (ds ++ rest) = some (ds, rest) := by
  have ht : rest.takeWhile Char.isDigit = [] := by cases hr <;> rfl
  have hd : rest.dropWhile Char.isDigit = rest := by cases hr <;> rfl
  rw [digits?, List.takeWhile_append_of_pos hds, List.dropWhile_append_of_pos hds, ht, hd]
  cases ds with
  | nil => exact absurd rfl hne
  | cons d ds => simp

theorem integer?_toDigits (n : Nat) (hr : Delimited rest) :
    integer? (Nat.toDigits 10 n ++ rest) = some (Nat.toDigits 10 n, rest) := by
  have hds : ∀ d ∈ Nat.toDigits 10 n, d.isDigit := fun d hd =>
    Nat.isDigit_of_mem_toDigits (by decide) (by decide) hd
  rw [integer?, digits?_append hds Nat.toDigits_ne_nil hr]
  split
  · rename_i h
    cases eq_nil_of_toDigits (congrArg Prod.fst (Option.some.inj h))
  · rfl

theorem magnitude?_toDigits (n : Nat) (hr : Delimited rest) :
    magnitude? (Nat.toDigits 10 n ++ rest) = some (Nat.toDigits 10 n, rest) := by
  have hf : fraction? rest = some ([], rest) := by cases hr <;> rfl
  have he : exponent? rest = some ([], rest) := by cases hr <;> rfl
  simp [magnitude?, integer?_toDigits n hr, hf, he]

/-- A natural number is read as its digits, which are its lexeme. -/
theorem number?_toDigits (n : Nat) (hr : Delimited rest) :
    number? (Nat.toDigits 10 n ++ rest) =
      some (.number (String.ofList (Nat.toDigits 10 n)), rest) := by
  have hm := magnitude?_toDigits n hr
  obtain ⟨d, ds, h, hd⟩ := exists_toDigits n
  rw [h, List.cons_append] at hm ⊢
  rw [number?, hm]
  · rfl
  · rintro _ h'
    cases h'
    cases hd

/-! ## The first character of a value -/

theorem skipBlanks_cons {c : Char} (hc : isBlank c = false) (cs : List Char) :
    skipBlanks (c :: cs) = c :: cs := by
  simp [skipBlanks, hc]

theorem isBlank_of_isDigit {d : Char} (hd : d.isDigit) : isBlank d = false := by
  cases hb : isBlank d with
  | false => rfl
  | true =>
    simp only [isBlank, Bool.or_eq_true, beq_iff_eq] at hb
    rcases hb with ((rfl | rfl) | rfl) | rfl <;> cases hd

/-- A digit opens a number. -/
theorem value?_digit {d : Char} (hd : d.isDigit) (bound : Nat) (cs : List Char) :
    value? (bound + 1) (d :: cs) = number? (d :: cs) := by
  rw [value?, skipBlanks_cons (isBlank_of_isDigit hd)]
  split
  case h_7 => rfl
  all_goals
    rename_i h
    cases h
    cases hd

/-- A bracket opens an array, which is not empty unless the next one closes it. -/
theorem value?_bracket {c : Char} (hb : isBlank c = false) (hc : c ≠ ']') (bound : Nat)
    (cs : List Char) :
    value? (bound + 1) ('[' :: c :: cs) =
      (elements? bound (c :: cs)).map fun p => (.array p.1, p.2) := by
  rw [value?, skipBlanks_cons rfl]
  simp only [skipBlanks_cons hb]
  split
  · rename_i h
    cases h
    exact absurd rfl hc
  · rfl

/-- A brace opens an object, and the quote its first name. -/
theorem value?_brace (bound : Nat) (cs : List Char) :
    value? (bound + 1) ('\x7b' :: '"' :: cs) =
      (members? bound ('"' :: cs)).map fun p => (.object p.1, p.2) := by
  rw [value?, skipBlanks_cons rfl]
  simp only [skipBlanks_cons (c := '"') rfl]
  rfl

end Reader

/-! ## Values -/

open Reader

/-- The values that are printed to be read: every string and every name of a member is text,
and every number is whole. -/
inductive Plain : Json → Prop
  | null : Plain .null
  | bool (b : Bool) : Plain (.bool b)
  | natural (n : Nat) : Plain (.number (String.ofList (Nat.toDigits 10 n)))
  | string (s : String) : Plain (.string s)
  | array {es : List Json} (plain : ∀ e ∈ es, Plain e) : Plain (.array es)
  | object {ms : List (Option String × Json)} (named : ∀ m ∈ ms, m.1.isSome)
      (plain : ∀ m ∈ ms, Plain m.2) : Plain (.object ms)

/-- A value is legible if it is read off the front of its text. -/
def Legible (v : Json) : Prop :=
  ∀ bound rest, 2 * (Printer.value v).length ≤ bound → Delimited rest →
    value? bound (Printer.value v ++ rest) = some (v, rest)

variable {v : Json} {es : List Json} {ms : List (Option String × Json)}

/-- No text starts with a blank, or with the bracket that would end an array before it. -/
theorem Plain.exists_cons (h : v.Plain) :
    ∃ c cs, Printer.value v = c :: cs ∧ isBlank c = false ∧ c ≠ ']' := by
  cases h with
  | natural n =>
    obtain ⟨d, ds, h, hd⟩ := exists_toDigits n
    refine ⟨d, ds, by rw [Printer.value, String.toList_ofList, h], isBlank_of_isDigit hd, ?_⟩
    rintro rfl
    cases hd
  | bool b => cases b <;> exact ⟨_, _, rfl, rfl, by decide⟩
  | _ => exact ⟨_, _, rfl, rfl, by decide⟩

/-- The text of a plain value is not empty, so the reader may be taken to have a call left. -/
theorem Plain.legible_of (h : v.Plain)
    (hv : ∀ bound rest, 2 * (Printer.value v).length ≤ bound + 1 → Delimited rest →
      value? (bound + 1) (Printer.value v ++ rest) = some (v, rest)) : Legible v := by
  intro bound rest hb hr
  obtain ⟨c, cs, hcons, -⟩ := h.exists_cons
  have hpos : 0 < (Printer.value v).length := by simp [hcons]
  obtain ⟨bound, rfl⟩ : ∃ n, bound = n + 1 := ⟨bound - 1, by omega⟩
  exact hv bound rest hb hr

theorem legible_natural (n : Nat) : Legible (.number (String.ofList (Nat.toDigits 10 n))) := by
  refine (Plain.natural n).legible_of fun bound rest _ hr => ?_
  have hv := number?_toDigits n hr
  obtain ⟨d, ds, hn, hd⟩ := exists_toDigits n
  rw [hn, List.cons_append] at hv
  rw [Printer.value, String.toList_ofList, hn, List.cons_append, value?_digit hd, hv]

/-- A string is read back. -/
theorem legible_string (s : String) : Legible (.string s) := by
  refine (Plain.string s).legible_of fun bound rest _ _ => ?_
  rw [Printer.value, Printer.quoted, List.append_assoc, List.cons_append]
  exact string?_encode s rest

/-! ### Arrays -/

theorem Plain.exists_elements (h : v.Plain) (es : List Json) :
    ∃ c cs, Printer.elements (v :: es) = c :: cs ∧ isBlank c = false ∧ c ≠ ']' := by
  obtain ⟨c, cs, hv, hc⟩ := h.exists_cons
  cases es with
  | nil => exact ⟨c, cs, by rw [Printer.elements, hv], hc⟩
  | cons e es =>
    refine ⟨c, cs ++ ',' :: Printer.elements (e :: es), ?_, hc⟩
    rw [Printer.elements_cons_cons, hv, List.cons_append]

/-- Elements are read up to the closing bracket, each one off the front. -/
theorem elements?_elements (hl : ∀ e ∈ es, Legible e) (hne : es ≠ []) (bound : Nat)
    (hb : 2 * (Printer.elements es).length < bound) (rest : List Char) :
    elements? bound (Printer.elements es ++ ']' :: rest) = some (es, rest) := by
  induction es generalizing bound with
  | nil => exact absurd rfl hne
  | cons e es ih =>
    obtain ⟨bound, rfl⟩ : ∃ n, bound = n + 1 := ⟨bound - 1, by omega⟩
    have he : Legible e := hl e List.mem_cons_self
    cases es with
    | nil =>
      rw [Printer.elements] at hb ⊢
      rw [elements?, he bound _ (by omega) (.bracket rest)]
      rfl
    | cons e' es =>
      rw [Printer.elements_cons_cons] at hb ⊢
      simp only [List.length_append, List.length_cons] at hb
      have hes := ih (fun x hx => hl x (List.mem_cons_of_mem _ hx)) (by simp) bound
        (by omega)
      rw [List.append_assoc, List.cons_append, elements?, he bound _ (by omega) (.comma _)]
      simp [skipBlanks_cons, isBlank, hes]

/-- An array is read back if its elements are. -/
theorem legible_array (hp : ∀ e ∈ es, e.Plain) (hl : ∀ e ∈ es, Legible e) :
    Legible (.array es) := by
  refine (Plain.array hp).legible_of fun bound rest hb _ => ?_
  cases es with
  | nil => rfl
  | cons e es =>
    rw [Printer.value] at hb ⊢
    simp only [List.length_append, List.length_cons, List.cons_append, List.append_assoc] at hb ⊢
    have he := elements?_elements hl (by simp) bound (by omega) rest
    obtain ⟨c, cs, h, hblank, hc⟩ := (hp e List.mem_cons_self).exists_elements es
    rw [h, List.cons_append] at he
    rw [h, List.cons_append, List.nil_append, value?_bracket hblank hc, he]
    rfl

/-! ### Objects -/

theorem exists_members (m : Option String × Json) (ms : List (Option String × Json)) :
    ∃ cs, Printer.members (m :: ms) = '"' :: cs := by
  cases ms <;> exact ⟨_, rfl⟩

/-- Members are read up to the closing brace, each one off the front. -/
theorem members?_members (hn : ∀ m ∈ ms, m.1.isSome) (hl : ∀ m ∈ ms, Legible m.2) (hne : ms ≠ [])
    (bound : Nat) (hb : 2 * (Printer.members ms).length < bound) (rest : List Char) :
    members? bound (Printer.members ms ++ '\x7d' :: rest) = some (ms, rest) := by
  induction ms generalizing bound with
  | nil => exact absurd rfl hne
  | cons m ms ih =>
    obtain ⟨bound, rfl⟩ : ∃ n, bound = n + 1 := ⟨bound - 1, by omega⟩
    obtain ⟨name, v⟩ := m
    obtain ⟨name, rfl⟩ := Option.isSome_iff_exists.mp (hn _ List.mem_cons_self)
    have hv : Legible v := hl _ List.mem_cons_self
    cases ms with
    | nil =>
      rw [Printer.members] at hb ⊢
      simp only [List.length_append, List.length_cons] at hb
      rw [List.append_assoc, List.cons_append, Option.getD_some, members?, name?_quoted]
      simp only [hv bound _ (by omega) (.brace rest)]
      rfl
    | cons m' ms =>
      rw [Printer.members_cons_cons] at hb ⊢
      simp only [List.length_append, List.length_cons] at hb
      have hms := ih (fun x hx => hn x (List.mem_cons_of_mem _ hx))
        (fun x hx => hl x (List.mem_cons_of_mem _ hx)) (by simp) bound (by omega)
      simp only [List.append_assoc, List.cons_append, Option.getD_some]
      rw [members?, name?_quoted]
      simp only [hv bound _ (by omega) (.comma _)]
      simp [skipBlanks_cons, isBlank, hms]

/-- An object with names is read back if its values are. -/
theorem legible_object (hn : ∀ m ∈ ms, m.1.isSome) (hp : ∀ m ∈ ms, m.2.Plain)
    (hl : ∀ m ∈ ms, Legible m.2) : Legible (.object ms) := by
  refine (Plain.object hn hp).legible_of fun bound rest hb _ => ?_
  cases ms with
  | nil => rfl
  | cons m ms =>
    rw [Printer.value] at hb ⊢
    simp only [List.length_append, List.length_cons, List.cons_append, List.append_assoc] at hb ⊢
    have hm := members?_members hn hl (by simp) bound (by omega) rest
    obtain ⟨cs, h⟩ := exists_members m ms
    rw [h, List.cons_append] at hm
    rw [h, List.cons_append, List.nil_append, value?_brace, hm]
    rfl

/-! ### Every value -/

/-- By induction on the value, each plain value is read back. -/
theorem Plain.legible (h : v.Plain) : Legible v := by
  induction h with
  | null => exact Plain.null.legible_of fun _ _ _ _ => rfl
  | bool b => exact (Plain.bool b).legible_of fun _ _ _ _ => by cases b <;> rfl
  | natural n => exact legible_natural n
  | string s => exact legible_string s
  | array hp ih => exact legible_array hp ih
  | object hn hp ih => exact legible_object hn hp ih

/-- The text of a plain value spells that value. -/
theorem Plain.parse_print (h : v.Plain) : parse v.print = some v := by
  have hv := h.legible (2 * (Printer.value v).length + 2) [] (by omega) .nil
  rw [List.append_nil] at hv
  rw [parse, print, String.toList_ofList, ofChars?, hv]
  rfl

end Supervision.Json
