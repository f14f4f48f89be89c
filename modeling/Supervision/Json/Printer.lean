import Supervision.Json
import Supervision.Json.Quoted

/-!
# Printing JSON

The compact text of a JSON value: no blanks, members in their order, numbers as they are.
A garbled string spells no text and is printed as the empty one; the values that this
library prints have none.
-/

namespace Supervision.Json

namespace Printer

/-- A text in quotes. -/
def quoted (s : String) : List Char := '"' :: Quoted.encode s.toList ++ ['"']

mutual

/-- The characters of a value. -/
def value : Json → List Char
  | .null => "null".toList
  | .bool true => "true".toList
  | .bool false => "false".toList
  | .number lexeme => lexeme.toList
  | .string s => quoted s
  | .garbled => quoted ""
  | .array es => '[' :: elements es ++ [']']
  | .object ms => '\x7b' :: members ms ++ ['\x7d']

/-- The elements of an array with commas between them. -/
def elements : List Json → List Char
  | [] => []
  | [e] => value e
  | e :: es => value e ++ ',' :: elements es

/-- The members of an object with commas between them. -/
def members : List (Option String × Json) → List Char
  | [] => []
  | [(name, v)] => quoted (name.getD "") ++ ':' :: value v
  | (name, v) :: ms => quoted (name.getD "") ++ ':' :: value v ++ ',' :: members ms

end

end Printer

/-- The compact text of a value. -/
def print (v : Json) : String := String.ofList (Printer.value v)

end Supervision.Json
