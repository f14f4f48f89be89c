import Supervision.Extension

/-!
# Availability signals

While an extension cannot be bound, the notification center tells of installed packages,
changed packages and unlocked users. The first two concern one package; an unlocked user
concerns every extension of that user.
-/

namespace Supervision

/-- What a signal tells of. -/
inductive SignalKind
  | packageInstalled | packageChanged | userUnlocked
  deriving DecidableEq

namespace SignalKind

/-- Every kind of signal, in the order in which a subscription asks for them. -/
def all : List SignalKind := [.packageInstalled, .packageChanged, .userUnlocked]

/-- The name of a kind of signal. -/
def text : SignalKind → String
  | .packageInstalled => "packageInstalled"
  | .packageChanged => "packageChanged"
  | .userUnlocked => "userUnlocked"

/-- Whether a signal of this kind is about one package. -/
def isPackageScoped : SignalKind → Bool
  | .packageInstalled => true
  | .packageChanged => true
  | .userUnlocked => false

end SignalKind

/-- A signal, with the package it names if it names one. -/
structure Signal where
  kind : SignalKind
  package : Option PackageName
  deriving DecidableEq

namespace Signal

/-- A signal is shown by its kind, with the named package in parentheses. -/
def text (s : Signal) : String :=
  match s.package with
  | some p => s.kind.text ++ "(" ++ p.text ++ ")"
  | none => s.kind.text

/-- A package-scoped signal concerns the package it names, any other one every package. -/
def concerns (s : Signal) (p : PackageName) : Bool :=
  !s.kind.isPackageScoped || s.package == some p

end Signal

end Supervision
