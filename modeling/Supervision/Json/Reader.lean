import Supervision.Json
import Supervision.Json.Quoted

/-!
# Reading JSON

`Json.parse` reads a text that is one JSON value, with blanks around it, by the strict
grammar of the format: no leading zeros, no trailing commas, no control characters in
strings. It decides nothing about what the value is used for, so numbers of any size and
nesting of any depth are read.

The reader descends into arrays and objects with a bound on the number of its calls. Every
second call at least consumes a character, so twice the length of the text is enough, and
`parse` shows no bound.
-/

namespace Supervision.Json

namespace Reader

/-- Whether a character may stand between the parts of a value. -/
def isBlank (c : Char) : Bool := c == ' ' || c == '\n' || c == '\t' || c == '\r'

/-- What stands behind the blanks at the front. -/
def skipBlanks (cs : List Char) : List Char := cs.dropWhile isBlank

/-! ## Numbers -/

/-- The digits at the front, at least one, and what stands behind them. -/
def digits? (cs : List Char) : Option (List Char × List Char) :=
  match cs.takeWhile Char.isDigit with
  | [] => none
  | ds => some (ds, cs.dropWhile Char.isDigit)

/-- The integer part of a number: digits without a leading zero. -/
def integer? (cs : List Char) : Option (List Char × List Char) :=
  match digits? cs with
  | some ('0' :: _ :: _, _) => none
  | r => r

/-- The decimals of a number, if it has a point. -/
def fraction? : List Char → Option (List Char × List Char)
  | '.' :: cs => (digits? cs).map fun (ds, rest) => ('.' :: ds, rest)
  | cs => some ([], cs)

/-- The sign at the front, if there is one. -/
def sign : List Char → List Char × List Char
  | '+' :: cs => (['+'], cs)
  | '-' :: cs => (['-'], cs)
  | cs => ([], cs)

/-- The exponent of a number, if it has one. -/
def exponent? : List Char → Option (List Char × List Char)
  | c :: cs =>
    if c = 'e' ∨ c = 'E' then
      (digits? (sign cs).2).map fun (ds, rest) => (c :: (sign cs).1 ++ ds, rest)
    else some ([], c :: cs)
  | [] => some ([], [])

/-- A number without its sign. -/
def magnitude? (cs : List Char) : Option (List Char × List Char) :=
  match integer? cs with
  | none => none
  | some (whole, cs) =>
    match fraction? cs with
    | none => none
    | some (fraction, cs) =>
      match exponent? cs with
      | none => none
      | some (exponent, cs) => some (whole ++ fraction ++ exponent, cs)

/-- The number at the front, and what stands behind it. -/
def number? : List Char → Option (Json × List Char)
  | '-' :: cs => (magnitude? cs).map fun (ds, rest) => (.number (String.ofList ('-' :: ds)), rest)
  | cs => (magnitude? cs).map fun (ds, rest) => (.number (String.ofList ds), rest)

/-! ## Strings -/

/-- The value of a string with this content. -/
def ofContent : Quoted.Content → Json
  | some cs => .string (String.ofList cs)
  | none => .garbled

/-- The string behind an opening quote. -/
def string? (cs : List Char) : Option (Json × List Char) :=
  (Quoted.decode cs).map fun (t, rest) => (ofContent t, rest)

/-- The name of a member with the colon behind it. -/
def name? (cs : List Char) : Option (Option String × List Char) :=
  match skipBlanks cs with
  | '"' :: cs =>
    match Quoted.decode cs with
    | some (t, cs) =>
      match skipBlanks cs with
      | ':' :: cs => some (t.map String.ofList, cs)
      | _ => none
    | none => none
  | _ => none

/-! ## Values -/

mutual

/-- The value at the front, in at most so many calls, and what stands behind it. -/
def value? : Nat → List Char → Option (Json × List Char)
  | 0, _ => none
  | bound + 1, cs =>
    match skipBlanks cs with
    | 'n' :: 'u' :: 'l' :: 'l' :: cs => some (.null, cs)
    | 't' :: 'r' :: 'u' :: 'e' :: cs => some (.bool true, cs)
    | 'f' :: 'a' :: 'l' :: 's' :: 'e' :: cs => some (.bool false, cs)
    | '"' :: cs => string? cs
    | '[' :: cs =>
      match skipBlanks cs with
      | ']' :: cs => some (.array [], cs)
      | cs => (elements? bound cs).map fun (es, rest) => (.array es, rest)
    | '\x7b' :: cs =>
      match skipBlanks cs with
      | '\x7d' :: cs => some (.object [], cs)
      | cs => (members? bound cs).map fun (ms, rest) => (.object ms, rest)
    | cs => number? cs

/-- The elements of an array, up to its closing bracket. -/
def elements? : Nat → List Char → Option (List Json × List Char)
  | 0, _ => none
  | bound + 1, cs =>
    match value? bound cs with
    | none => none
    | some (e, cs) =>
      match skipBlanks cs with
      | ',' :: cs => (elements? bound cs).map fun (es, rest) => (e :: es, rest)
      | ']' :: cs => some ([e], cs)
      | _ => none

/-- The members of an object, up to its closing brace. -/
def members? : Nat → List Char → Option (List (Option String × Json) × List Char)
  | 0, _ => none
  | bound + 1, cs =>
    match name? cs with
    | none => none
    | some (name, cs) =>
      match value? bound cs with
      | none => none
      | some (v, cs) =>
        match skipBlanks cs with
        | ',' :: cs => (members? bound cs).map fun (ms, rest) => ((name, v) :: ms, rest)
        | '\x7d' :: cs => some ([(name, v)], cs)
        | _ => none

end

end Reader

/-- The value that a sequence of characters spells. -/
def ofChars? (cs : List Char) : Option Json :=
  match Reader.value? (2 * cs.length + 2) cs with
  | some (v, rest) => if (Reader.skipBlanks rest).isEmpty then some v else none
  | none => none

/-- The value that a text spells. -/
def parse (text : String) : Option Json := ofChars? text.toList

end Supervision.Json
