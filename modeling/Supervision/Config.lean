import Supervision.Error

/-!
# Configuration

How often a bind is tried without a connection, how long to wait between tries, and the
flags that go with every bind request. At least one try must be allowed.
-/

namespace Supervision

/-- Flags of a bind request. -/
structure BindFlags where
  autoCreate : Bool := true
  foregroundWhileAwake : Bool := true
  deriving DecidableEq

/-- No flag is set. -/
def BindFlags.none : BindFlags := ⟨false, false⟩

/-- The configuration of a supervisor; the delay is in whole milliseconds. -/
structure Config where
  maxRetries : UInt32 := 5
  retryDelay : UInt64 := 1000
  flags : BindFlags := {}
  deriving DecidableEq

/-- A configuration that allows no try at all is refused. -/
def Config.validate (c : Config) : Except Error Unit :=
  if c.maxRetries = 0 then .error (.config "max_retries must be greater than zero") else .ok ()

theorem Config.validate_eq_ok_iff (c : Config) : c.validate = .ok () ↔ 0 < c.maxRetries := by
  simp [Config.validate, UInt32.pos_iff_ne_zero]

end Supervision
