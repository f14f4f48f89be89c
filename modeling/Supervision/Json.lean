/-!
# JSON values

The value of a JSON text, as far as readers of it can tell values apart: a number is its
text, since readers differ in the numbers they accept, and an object keeps all its members
in order, repeated ones too. A string can be *garbled*: well-formed by the grammar, but
with an escape that names half of a surrogate pair, so that it spells no text. A garbled
string can be skipped and not read; as the name of a member it is `none`.
-/

namespace Supervision

/-- A JSON value. -/
inductive Json
  | null
  | bool (value : Bool)
  | number (lexeme : String)
  | string (value : String)
  | garbled
  | array (elements : List Json)
  | object (members : List (Option String × Json))
  deriving Inhabited

namespace Json

/-- The truth value a JSON value is, if it is one. -/
def bool? : Json → Option Bool
  | .bool b => some b
  | _ => none

/-- The text a JSON value is, if it is one. -/
def string? : Json → Option String
  | .string s => some s
  | _ => none

end Json

end Supervision
