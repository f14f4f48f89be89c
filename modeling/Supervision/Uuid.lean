import Supervision.Hexadecimal

/-!
# UUIDs

A UUID is thirty-two hexadecimal digits. It is written in lower case with hyphens behind
the 8th, 12th, 16th and 20th digit. It may be read in either case, without hyphens as
well, and the form with hyphens may stand in braces or behind `urn:uuid:`.
-/

namespace Supervision

/-- A UUID, as its hexadecimal digits. -/
structure Uuid where
  digits : List (Fin 16)
  length_digits : digits.length = 32
  deriving DecidableEq

namespace Uuid

/-! ## Writing -/

/-- The characters of a UUID, in groups of 8, 4, 4, 4 and 12 digits. -/
def chars (u : Uuid) : List Char :=
  let cs := u.digits.map Hexadecimal.digit
  cs.take 8 ++ '-' :: (cs.drop 8).take 4 ++ '-' :: (cs.drop 12).take 4 ++
    '-' :: (cs.drop 16).take 4 ++ '-' :: cs.drop 20

/-- A UUID is shown with hyphens. -/
def text (u : Uuid) : String := String.ofList u.chars

/-! ## Reading -/

/-- The UUID of thirty-two digits. -/
def ofDigits? (cs : List Char) : Option Uuid :=
  match cs.mapM Hexadecimal.value? with
  | none => none
  | some ds => if h : ds.length = 32 then some ⟨ds, h⟩ else none

/-- The UUID of thirty-two digits in groups of 8, 4, 4, 4 and 12 with hyphens between. -/
def ofHyphenated? (cs : List Char) : Option Uuid :=
  if cs.length = 36 ∧ cs[8]? = some '-' ∧ cs[13]? = some '-' ∧ cs[18]? = some '-' ∧
      cs[23]? = some '-' then
    ofDigits? (cs.take 8 ++ (cs.drop 9).take 4 ++ (cs.drop 14).take 4 ++
      (cs.drop 19).take 4 ++ cs.drop 24)
  else none

/-- The UUID between braces. -/
def ofBraced? : List Char → Option Uuid
  | '\x7b' :: cs => if cs.getLast? = some '\x7d' then ofHyphenated? cs.dropLast else none
  | _ => none

/-- The UUID behind `urn:uuid:`. -/
def ofUrn? (cs : List Char) : Option Uuid :=
  if (cs.take 9).map Char.toLower = "urn:uuid:".toList then ofHyphenated? (cs.drop 9) else none

/-- The UUID that a text spells in one of the four forms, which differ in length. -/
def ofChars? (cs : List Char) : Option Uuid :=
  if cs.length = 32 then ofDigits? cs
  else if cs.length = 36 then ofHyphenated? cs
  else if cs.length = 38 then ofBraced? cs
  else if cs.length = 45 then ofUrn? cs
  else none

/-- The UUID that a text spells. -/
def ofText? (s : String) : Option Uuid := ofChars? s.toList

end Uuid

/-- The name under which a subscription travels. -/
structure SubscriptionId where
  uuid : Uuid
  deriving DecidableEq

/-- The name of a subscription is shown as its UUID. -/
def SubscriptionId.text (s : SubscriptionId) : String := s.uuid.text

end Supervision
