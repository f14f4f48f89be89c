import Supervision.Assembly

/-!
# Inspection

The inspection of a value shows how it is built: the name of its constructor, and its
fields by name in braces or by place in parentheses. A value that has more to it than is
shown ends in two dots. Texts stand in quotes, with quotes, backslashes and control
characters escaped; spans of time are in the largest unit that fits, seconds with the
decimals they need.
-/

namespace Supervision

namespace Inspection

/-! ## Building blocks -/

/-- Parts with commas between them. -/
def listing (parts : List String) : String := ", ".intercalate parts

/-- A name with parts in parentheses. -/
def tuple (name : String) (parts : List String) : String :=
  name ++ "(" ++ listing parts ++ ")"

/-- Named fields, each with its value. -/
def fields (fs : List (String × String)) : List String := fs.map fun f => f.1 ++ ": " ++ f.2

/-- A name with all its fields in braces. -/
def whole (name : String) (fs : List (String × String)) : String :=
  name ++ " \x7b " ++ listing (fields fs) ++ " \x7d"

/-- A name with some of its fields in braces. -/
def excerpt (name : String) (fs : List (String × String)) : String :=
  name ++ " \x7b " ++ listing (fields fs ++ [".."]) ++ " \x7d"

/-- A value that may be absent. -/
def optional : Option String → String
  | some v => tuple "Some" [v]
  | none => "None"

/-- A hexadecimal number without leading zeros. -/
def hexadecimal (n : Nat) : String := String.ofList (Nat.toDigits 16 n)

/-- A character as it stands between quotes. Of the characters that do not print, only the control
characters are escaped. -/
def quotedChar (c : Char) : String :=
  if c = '"' then "\\\""
  else if c = '\\' then "\\\\"
  else if c = '\n' then "\\n"
  else if c = '\r' then "\\r"
  else if c = '\t' then "\\t"
  else if c.toNat = 0 then "\\0"
  else if c.toNat < 0x20 ∨ c.toNat = 0x7f then "\\u\x7b" ++ hexadecimal c.toNat ++ "\x7d"
  else c.toString

/-- A text in quotes. -/
def quoted (s : String) : String := "\"" ++ String.join (s.toList.map quotedChar) ++ "\""

/-- A number below a thousand as decimals behind the point, without zeros at the end. -/
def decimals (n : Nat) : List Char :=
  if n % 10 = 0 then
    if n % 100 = 0 then Nat.toDigits 10 (n / 100)
    else [Nat.digitChar (n / 100), Nat.digitChar (n / 10 % 10)]
  else [Nat.digitChar (n / 100), Nat.digitChar (n / 10 % 10), Nat.digitChar (n % 10)]

/-- A span of so many milliseconds. -/
def milliseconds (n : Nat) : String :=
  if n = 0 then "0ns"
  else if n < 1000 then toString n ++ "ms"
  else if n % 1000 = 0 then toString (n / 1000) ++ "s"
  else toString (n / 1000) ++ "." ++ String.ofList (decimals (n % 1000)) ++ "s"

end Inspection

open Inspection

/-! ## Names and serial numbers -/

/-- The inspection of a user. -/
def UserId.inspect (u : UserId) : String := tuple "UserId" [u.text]

/-- The inspection of a package's name. -/
def PackageName.inspect (p : PackageName) : String := tuple "PackageName" [quoted p.name]

/-- The inspection of a component's name. -/
def ComponentName.inspect (c : ComponentName) : String := tuple "ComponentName" [quoted c.name]

/-- The inspection of an extension. -/
def Extension.inspect (x : Extension) : String :=
  whole "ExtensionId" [("user", x.user.inspect), ("package", x.package.inspect),
    ("component", x.component.inspect)]

/-- The inspection of a bind token. -/
def BindToken.inspect (t : BindToken) : String := tuple "BindToken" [toString t.number]

/-- The inspection of a handle of the binder. -/
def BindHandle.inspect (h : BindHandle) : String :=
  whole "BindHandle" [("token", h.token.inspect)]

/-- The inspection of a subscription's serial number. -/
def Subscription.inspect (s : Subscription) : String := tuple "SubscriptionId" [s.text]

/-! ## Signals, configuration and status -/

/-- The inspection of a kind of signals. -/
def SignalKind.inspect : SignalKind → String
  | .packageInstalled => "PackageInstalled"
  | .packageChanged => "PackageChanged"
  | .userUnlocked => "UserUnlocked"

/-- The inspection of a signal. -/
def Signal.inspect (s : Signal) : String :=
  whole "AvailabilitySignal" [("kind", s.kind.inspect),
    ("package", optional (s.package.map PackageName.inspect))]

/-- The inspection of the flags of a bind request. -/
def BindFlags.inspect (f : BindFlags) : String :=
  whole "BindFlags" [("auto_create", toString f.autoCreate),
    ("foreground_while_awake", toString f.foregroundWhileAwake)]

/-- The inspection of a configuration. -/
def Config.inspect (c : Config) : String :=
  whole "SupervisorConfig" [("max_retries", toString c.maxRetries.toNat),
    ("retry_delay", milliseconds c.retryDelay.toNat), ("bind_flags", c.flags.inspect)]

/-- The inspection of a state of the connection. -/
def ConnectionState.inspect : ConnectionState → String
  | .unbound => "Unbound"
  | .connecting => "Connecting"
  | .connected => "Connected"
  | .givingUp => "GivingUp"

/-- The inspection of a status. -/
def Status.inspect (s : Status) : String :=
  whole "SupervisorStatus" [("state", s.state.inspect),
    ("retry_count", toString s.retryCount.toNat), ("desired", toString s.desired),
    ("watcher_registered", toString s.watcherRegistered),
    ("retry_scheduled", toString s.retryScheduled),
    ("dropped_events", toString s.droppedEvents)]

/-! ## Commands -/

/-- The inspection of a cause of death. -/
def DeathCause.inspect : DeathCause → String
  | .disconnected => "Disconnected"
  | .deathNotification => "DeathNotification"
  | .dispatchFailed => "DispatchFailed"

/-- The inspection of a command; what only its receiver can use is not shown. -/
def Command.inspect : Command → String
  | .setEnabled enabled => tuple "SetEnabled" [toString enabled]
  | .flushAndUnbind => "FlushAndUnbind"
  | .connected token _ => excerpt "Connected" [("token", token.inspect)]
  | .sessionDied token cause =>
    whole "SessionDied" [("token", token.inspect), ("cause", cause.inspect)]
  | .deathCheck failed =>
    whole "DeathCheck" [("failed", optional (failed.map BindToken.inspect))]
  | .retryElapsed generation => whole "RetryElapsed" [("generation", toString generation)]
  | .signal id x => whole "Signal" [("subscription", id.inspect), ("signal", x.inspect)]
  | .setChangeListener l => tuple "SetChangeListener" [toString l.isSome]
  | .barrier _ => "Barrier"
  | .shutdown => "Shutdown"

/-! ## What collaborators and callers hold -/

/-- What a binder reports a bind's connections through. -/
def BindToken.inspectEvents (t : BindToken) : String :=
  excerpt "ConnectionEvents" [("token", t.inspect)]

/-- The inspection of a bind request. -/
def BindRequest.inspect (r : BindRequest) : String :=
  whole "BindRequest" [("token", r.token.inspect), ("extension", r.extension.inspect),
    ("flags", r.flags.inspect), ("events", r.token.inspectEvents)]

/-- What a transport reports a session's death through. -/
def BindToken.inspectNotifier (t : BindToken) : String :=
  excerpt "DeathNotifier" [("token", t.inspect)]

/-- The session of a bind. -/
def BindToken.inspectSession (t : BindToken) : String :=
  excerpt "RemoteSession" [("token", t.inspect)]

/-- What a center delivers a subscription's signals through. -/
def Subscription.inspectSink (s : Subscription) : String :=
  excerpt "SignalSink" [("subscription", s.inspect)]

/-- The inspection of a request for signals. -/
def SubscriptionRequest.inspect (r : SubscriptionRequest) : String :=
  whole "SubscriptionRequest" [("id", r.id.inspect), ("user", r.user.inspect),
    ("kinds", "[" ++ listing (SignalKind.all.map SignalKind.inspect) ++ "]"),
    ("sink", r.id.inspectSink)]

/-- The inspection of what a supervisor is to be assembled from. -/
def Assembly.inspect (a : Assembly) : String :=
  whole "SupervisorBuilder" [("extension", a.extension.inspect),
    ("registry", toString a.hasRegistry), ("binder", toString a.hasBinder),
    ("notifications", toString a.hasNotifications), ("config", a.config.inspect)]

/-- A handle shows the extension and the published status. -/
def System.inspectHandle {W : Type} (s : System W) : String :=
  excerpt "ConnectionSupervisor" [("extension", s.extension.inspect),
    ("status", s.status.inspect)]

end Supervision
