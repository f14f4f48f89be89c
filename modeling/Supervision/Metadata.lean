import Supervision.Json

/-!
# Declared metadata

What an extension declares about itself is a JSON object. One entry matters here: an
extension is active if its metadata says so by the value `true`; any other value, or none,
means that it is not.
-/

namespace Supervision

/-- The entries of a metadata object. -/
structure Metadata where
  entries : List (String × Json) := []

namespace Metadata

/-- The entry by which an extension declares that it is active. -/
def activeKey : String := "active_extension"

/-- The value of an entry. -/
def get? (m : Metadata) (key : String) : Option Json := m.entries.lookup key

/-- Whether the metadata declares the extension active. -/
def isActive (m : Metadata) : Bool := ((m.get? activeKey).bind Json.bool?).getD false

end Metadata

end Supervision
