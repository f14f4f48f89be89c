/-!
# Hexadecimal digits

A digit is written in lower case and read in either case. `value?_digit` says that what
was written is read back.
-/

namespace Supervision.Hexadecimal

/-- The character of a digit. -/
def digit (d : Fin 16) : Char := Nat.digitChar d

/-- The lowest digit of a number. -/
def lowest (n : Nat) : Fin 16 := Fin.ofNat 16 n

/-- The digit that a character is, if it is one. -/
def value? (c : Char) : Option (Fin 16) :=
  if '0' ≤ c ∧ c ≤ '9' then some (lowest (c.toNat - '0'.toNat))
  else if 'a' ≤ c ∧ c ≤ 'f' then some (lowest (c.toNat - 'a'.toNat + 10))
  else if 'A' ≤ c ∧ c ≤ 'F' then some (lowest (c.toNat - 'A'.toNat + 10))
  else none

theorem value?_digit (d : Fin 16) : value? (digit d) = some d := by
  revert d; decide

end Supervision.Hexadecimal
