import Supervision.Event
import Supervision.Json.Printer
import Supervision.Json.Reader
import Supervision.Signal
import Supervision.Status
import Supervision.Uuid

/-!
# The wire format

Names, identifiers, events and signals travel as JSON. `Wire` gives for a type the JSON
value of each of its values, and reads a value back from JSON; `Wire.encode` and
`Wire.decode` go through the text.

A writer has one form, a reader is lenient in the ways that the format knows:

* numbers are whole, written without sign, point or exponent, and must fit the width;
* a record is an object with its fields in any order, or an array of all of them in the
  order of declaration; in an object unknown members are skipped, none of the fields may be
  repeated, and an optional field may be missing;
* a value of an enumeration is its name, or an object with that name alone for a `null`;
* an event is an object with its `method`, and the `target` if it is a click, or an array
  of both.
-/

namespace Supervision

/-- Types whose values travel as JSON. -/
class Wire (α : Type) where
  toJson : α → Json
  ofJson? : Json → Option α

namespace Wire

/-- The JSON text of a value. -/
def encode {α : Type} [Wire α] (a : α) : String := (toJson a).print

/-- The value that a JSON text spells. -/
def decode {α : Type} [Wire α] (text : String) : Option α := (Json.parse text).bind ofJson?

/-! ## Forms -/

/-- A whole number. -/
def natural (n : Nat) : Json := .number (String.ofList (Nat.toDigits 10 n))

/-- Reads a whole number. -/
def natural? : Json → Option Nat
  | .number lexeme =>
    if lexeme.toList.all Char.isDigit then some (Nat.ofDigitChars 10 lexeme.toList 0) else none
  | _ => none

/-- Reads a whole number below a bound. -/
def naturalBelow? (bound : Nat) (v : Json) : Option Nat := (natural? v).filter (· < bound)

/-- The values of the members with a given name. -/
def valuesOf (name : String) (ms : List (Option String × Json)) : List Json :=
  (ms.filter fun m => m.1 == some name).map Prod.snd

/-- The value of the only member with a given name, which may be missing but not repeated. -/
def field? (name : String) (ms : List (Option String × Json)) : Option (Option Json) :=
  match valuesOf name ms with
  | [] => some none
  | [v] => some (some v)
  | _ => none

/-- Reads the fields of a record from an object or from an array. -/
def fields? (names : List String) : Json → Option (List (Option Json))
  | .object ms =>
    if ms.all fun m => m.1.isSome then names.mapM fun name => field? name ms else none
  | .array vs => if vs.length = names.length then some (vs.map some) else none
  | _ => none

/-- Reads the name of a value of an enumeration. -/
def constant? : Json → Option String
  | .string s => some s
  | .object [(some s, .null)] => some s
  | _ => none

/-- Reads a field that may be missing or `null`. -/
def optional? {α : Type} [Wire α] : Option Json → Option (Option α)
  | none => some none
  | some .null => some none
  | some v => (ofJson? v).map some

/-- Reads a field that must be there. -/
def required? {α : Type} [Wire α] (v : Option Json) : Option α := v.bind ofJson?

/-! ## Names and identifiers -/

instance : Wire UserId where
  toJson u := natural u.id.toNat
  ofJson? v := (naturalBelow? UInt32.size v).map fun n => ⟨UInt32.ofNat n⟩

instance : Wire ClickTarget where
  toJson t := natural t.raw.toNat
  ofJson? v := (naturalBelow? UInt64.size v).map fun n => ⟨UInt64.ofNat n⟩

instance : Wire PackageName where
  toJson p := .string p.name
  ofJson? v := v.string?.map PackageName.mk

instance : Wire ComponentName where
  toJson c := .string c.name
  ofJson? v := v.string?.map ComponentName.mk

instance : Wire Uuid where
  toJson u := .string u.text
  ofJson? v := v.string?.bind Uuid.ofText?

instance : Wire SubscriptionId where
  toJson s := toJson s.uuid
  ofJson? v := (ofJson? v).map SubscriptionId.mk

instance : Wire Extension where
  toJson x := .object [(some "user", toJson x.user), (some "package", toJson x.package),
    (some "component", toJson x.component)]
  ofJson? v := do
    let [user, package, component] ← fields? ["user", "package", "component"] v | none
    return ⟨← required? user, ← required? package, ← required? component⟩

/-! ## Events -/

/-- The kind of events with a name. -/
def kindNamed? (name : String) : Option EventKind := EventKind.all.find? fun k => k.text == name

instance : Wire EventKind where
  toJson k := .string k.text
  ofJson? v := (constant? v).bind kindNamed?

/-- The event with a method and a target; only a click has one. -/
def eventNamed? (method : String) (target : Option Json) : Option LifecycleEvent :=
  if method = (LifecycleEvent.click ⟨0⟩).method then (required? target).map LifecycleEvent.click
  else if target matches none | some .null then
    [.added, .removed, .startListening, .stopListening, .unlockComplete].find? fun e =>
      e.method == method
  else none

instance : Wire LifecycleEvent where
  toJson e := .object ((some "method", .string e.method) ::
    match e.target? with
    | some t => [(some "target", toJson t)]
    | none => [])
  ofJson? v := do
    let [method, target] ← fields? ["method", "target"] v | none
    let method ← method
    let name ← if v matches .array _ then method.string? else constant? method
    eventNamed? name target

/-! ## Signals and status -/

/-- The kind of signals with a name. -/
def signalKindNamed? (name : String) : Option SignalKind :=
  SignalKind.all.find? fun k => k.text == name

instance : Wire SignalKind where
  toJson k := .string k.text
  ofJson? v := (constant? v).bind signalKindNamed?

instance : Wire Signal where
  toJson s := .object [(some "kind", toJson s.kind),
    (some "package", match s.package with | some p => toJson p | none => .null)]
  ofJson? v := do
    let [kind, package] ← fields? ["kind", "package"] v | none
    return ⟨← required? kind, ← optional? package⟩

end Wire

/-- The JSON value of a status. -/
def Status.toJson (s : Status) : Json := .object [
  (some "state", .string s.state.text),
  (some "retryCount", Wire.natural s.retryCount.toNat),
  (some "desired", .bool s.desired),
  (some "watcherRegistered", .bool s.watcherRegistered),
  (some "retryScheduled", .bool s.retryScheduled),
  (some "droppedEvents", Wire.natural s.droppedEvents)]

end Supervision
