import Supervision.Hexadecimal

/-!
# Quoted text

How text stands between quotes in JSON. Writing escapes quotes, backslashes and the
control characters below the space, the usual five of them by a letter and the others by
four hexadecimal digits; all else stands for itself. Reading accepts every escape of the
format. Two escapes may spell one character as a surrogate pair; an escape that names half
of a pair and has no other half beside it garbles the text, which is then read to its end
but not as text.
-/

namespace Supervision.Json.Quoted

open Hexadecimal

/-! ## Writing -/

/-- The letter that escapes a character, for those that have one. -/
def shortEscape? (c : Char) : Option Char :=
  match c with
  | '"' => some '"'
  | '\\' => some '\\'
  | '\x08' => some 'b'
  | '\x0c' => some 'f'
  | '\n' => some 'n'
  | '\r' => some 'r'
  | '\t' => some 't'
  | _ => none

/-- A character as it is written. -/
def encodeChar (c : Char) : List Char :=
  match shortEscape? c with
  | some e => ['\\', e]
  | none =>
    if c.toNat < 0x20 then
      ['\\', 'u', '0', '0', digit (lowest (c.toNat / 16)), digit (lowest c.toNat)]
    else [c]

/-- Text as it is written between quotes. -/
def encode (cs : List Char) : List Char := cs.flatMap encodeChar

/-! ## Reading -/

/-- The number that four hexadecimal digits spell. -/
def unit? (a b c d : Char) : Option Nat :=
  match value? a, value? b, value? c, value? d with
  | some a, some b, some c, some d => some (((a.val * 16 + b) * 16 + c) * 16 + d)
  | _, _, _, _ => none

/-- The character that a letter escapes. -/
def escaped? (c : Char) : Option Char :=
  match c with
  | '"' => some '"'
  | '\\' => some '\\'
  | '/' => some '/'
  | 'b' => some '\x08'
  | 'f' => some '\x0c'
  | 'n' => some '\n'
  | 'r' => some '\r'
  | 't' => some '\t'
  | _ => none

/-- What stands between quotes: text, or `none` if it is garbled. -/
abbrev Content := Option (List Char)

/-- Puts a character in front, if the rest is text. -/
def Content.cons (c : Char) (t : Content) : Content := t.map (c :: ·)

/-- Whether a number is the first or the second half of a surrogate pair. -/
def isHigh (n : Nat) : Bool := 0xD800 ≤ n && n < 0xDC00

/-- Whether a number is the second half of a surrogate pair. -/
def isLow (n : Nat) : Bool := 0xDC00 ≤ n && n < 0xE000

/-- The character that a surrogate pair names. -/
def ofPair (high low : Nat) : Char :=
  Char.ofNat (0x10000 + (high - 0xD800) * 0x400 + (low - 0xDC00))

/-- What an escape by digits puts in front of the text behind it. -/
def prepend (n : Nat) (t : Content) : Content :=
  if isHigh n || isLow n then none else t.cons (Char.ofNat n)

/-- Reads up to the closing quote; gives the content and what stands behind the quote. -/
def decode : List Char → Option (Content × List Char)
  | [] => none
  | '"' :: rest => some (some [], rest)
  | '\\' :: 'u' :: a :: b :: c :: d :: '\\' :: 'u' :: e :: f :: g :: h :: rest =>
    match unit? a b c d, unit? e f g h with
    | some m, some n =>
      if isHigh m && isLow n then
        (decode rest).map fun (t, rest) => (t.cons (ofPair m n), rest)
      else
        (decode ('\\' :: 'u' :: e :: f :: g :: h :: rest)).map fun (t, rest) =>
          (prepend m t, rest)
    | _, _ => none
  | '\\' :: 'u' :: a :: b :: c :: d :: rest =>
    match unit? a b c d with
    | some n => (decode rest).map fun (t, rest) => (prepend n t, rest)
    | none => none
  | '\\' :: e :: rest =>
    match escaped? e with
    | some c => (decode rest).map fun (t, rest) => (t.cons c, rest)
    | none => none
  | c :: rest =>
    if c = '\\' ∨ c.toNat < 0x20 then none
    else (decode rest).map fun (t, rest) => (t.cons c, rest)

end Supervision.Json.Quoted
