/-!
# Extensions and their names

An extension is a component of a package, installed for one user. Users are numbered by
32-bit words, packages and components are named by arbitrary text, and an extension is
shown as `package/component (user n)`.

Names are ordered by code points and users by number. `ordered` lists values in that
order, each once.
-/

namespace Supervision

/-! ## Names -/

/-- A user of the device. -/
structure UserId where
  id : UInt32
  deriving DecidableEq

/-- The name of an installed package. -/
structure PackageName where
  name : String
  deriving DecidableEq

/-- The name of a component inside a package. -/
structure ComponentName where
  name : String
  deriving DecidableEq

/-- The extension under supervision: who it runs for, and which component of which package. -/
structure Extension where
  user : UserId
  package : PackageName
  component : ComponentName
  deriving DecidableEq

/-! ## Text -/

/-- A user is shown by number. -/
def UserId.text (u : UserId) : String := toString u.id.toNat

/-- A package is shown by its name. -/
def PackageName.text (p : PackageName) : String := p.name

/-- A component is shown by its name. -/
def ComponentName.text (c : ComponentName) : String := c.name

/-- An extension is shown with its path first and its user behind. -/
def Extension.text (x : Extension) : String :=
  x.package.text ++ "/" ++ x.component.text ++ " (user " ++ x.user.text ++ ")"

/-! ## Order -/

instance : Ord UserId := ⟨fun a b => compare a.id b.id⟩

instance : Ord PackageName := ⟨fun a b => compare a.name b.name⟩

instance : Ord ComponentName := ⟨fun a b => compare a.name b.name⟩

/-- Puts `a` into an ordered list, unless an equal value stands there already. -/
def place {α : Type} [Ord α] (a : α) : List α → List α
  | [] => [a]
  | b :: bs =>
    match compare a b with
    | .lt => a :: b :: bs
    | .eq => b :: bs
    | .gt => b :: place a bs

/-- The values of a list in their order, each once. -/
def ordered {α : Type} [Ord α] (as : List α) : List α := as.foldr place []

end Supervision
