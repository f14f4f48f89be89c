import Supervision.Scenario.Script
import Supervision.System.Delivery
import Supervision.Wire

/-!
# Scripted collaborators

The world of a scenario: what the scripted collaborators know and what has become of them.
They write a trace of the calls they receive. `host` is the collaborators as a supervisor
sees them.

Binds, subscriptions and transports are numbered in the order in which they come about.
-/

namespace Supervision.Scenario

/-- What the collaborators know. -/
structure World where
  packageKnown : Bool := true
  componentKnown : Bool := true
  metadata : Option Metadata := some {}
  /-- How the next requests are treated; when it is used up, `mode` holds. -/
  script : List BindEntry := []
  mode : BindMode := .accept
  binds : List BindRequest := []
  /-- Whether new subscriptions are refused. -/
  failing : Bool := false
  /-- The signals that the next accepted subscription receives at once. -/
  auto : List Signal := []
  /-- All subscriptions, each with whether it is open. -/
  subscriptions : List (SubscriptionRequest × Bool) := []
  transports : List Transport := []
  listeners : List (String × List CallerStep) := []
  /-- The calls received, the newest first. -/
  trace : List String := []

namespace World

/-- Adds a line to the trace. -/
def say (w : World) (line : String) : World := { w with trace := line :: w.trace }

/-- Adds a transport. -/
def addTransport (w : World) (spec : TransportSpec) : World × TransportId :=
  ({ w with transports := w.transports ++ [({} : Transport).amend spec] },
    ⟨w.transports.length⟩)

/-- Adds a listener. -/
def addListener (w : World) (name : String) (calls : List CallerStep) : World × ListenerId :=
  ({ w with listeners := w.listeners ++ [(name, calls)] }, ⟨w.listeners.length⟩)

/-- Replaces a transport. -/
def setTransport (w : World) (i : Nat) (t : Transport) : World :=
  { w with transports := w.transports.set i t }

/-! ## What callers do -/

/-- What a caller's step does to a supervisor whose deliveries are locked out. From there
a caller cannot tell the extension anything. -/
def deeds (w : World) : CallerStep → World × List Deed
  | .setEnabled enabled => (w, [.ask (.setEnabled enabled)])
  | .flush => (w, [.ask .flush])
  | .tell _ => (w, [])
  | .listen name calls =>
    match w.addListener name calls with
    | (w, id) => (w, [.ask (.setListener (some id))])
  | .clearListener => (w, [.ask (.setListener none)])
  | .isActive => (w, [.lookUp])
  | .view _ => (w, [])
  | .clone => (w, [.clone])
  | .drop => (w, [.drop])
  | .settle => (w, [.ask .settle])
  | .shutdown => (w, [.ask .shutdown])

/-- What a caller's step does to a supervisor. -/
def acts (w : World) : CallerStep → World × List Act
  | .tell e => (w, [.tell e])
  | c =>
    match w.deeds c with
    | (w, ds) => (w, ds.map .deed)

/-- What several steps of a caller do, given what one does. -/
def sequence {A D : Type} (f : World → A → World × List D) (w : World) (as : List A) :
    World × List D :=
  as.foldl (fun (w, ds) a => match f w a with | (w, more) => (w, ds ++ more)) (w, [])

end World

/-! ## The registry -/

/-- How a lookup went. -/
def found (b : Bool) : String := if b then "ok" else "missing"

/-- The answer to a lookup. -/
def lookup (b : Bool) (e : Error) : Except Error Unit := if b then .ok () else .error e

/-- The registry looks for a package. -/
def resolvePackage (w : World) (p : PackageName) (u : UserId) : Except Error Unit × World :=
  (lookup w.packageKnown (.packageNotFound p u), w.say
    ("resolve_package " ++ p.text ++ " user " ++ u.text ++ " -> " ++ found w.packageKnown))

/-- The registry looks for a component. -/
def resolveComponent (w : World) (x : Extension) : Except Error Unit × World :=
  (lookup w.componentKnown (.componentNotFound x), w.say
    ("resolve_component " ++ x.text ++ " -> " ++ found w.componentKnown))

/-- The registry gives the metadata of an extension. -/
def metadata (w : World) (x : Extension) : Except Error Metadata × World :=
  (match w.metadata with | some m => .ok m | none => .error (.componentNotFound x),
    w.say ("metadata " ++ x.text ++ " -> " ++ found w.metadata.isSome))

/-! ## The binder -/

/-- The binder's answer to a request. -/
def BindMode.answer (r : BindRequest) : BindMode → Except Error BindHandle
  | .accept => .ok ⟨r.token⟩
  | .foreign => .ok ⟨⟨r.token.number + 1⟩⟩
  | .reject reason => .error (.bindRejected r.extension reason)
  | .refuse => .error (.bindRefused r.extension)
  | .dead => .error (.sessionDead "binder gone")

/-- What the binder reports of a bind. -/
def bindReport (token : BindToken) (spec : TransportSpec) (w : World) :
    BindReport → World × List Act
  | .connect =>
    match w.addTransport spec with
    | (w, id) => (w, [.deed (.report (.connected token id))])
  | .disconnect => (w, [.deed (.report (.disconnected token))])

/-- The binder receives a request. -/
def bind (w : World) (r : BindRequest) : Reaction Act (Except Error BindHandle) World :=
  let entry := w.script.head?.getD { mode := w.mode }
  let w := { w with script := w.script.tail, binds := w.binds ++ [r] }.say
    ("bind b" ++ toString w.binds.length ++ " token " ++ toString r.token.number ++
      " events " ++ toString r.token.number ++ " " ++ r.extension.text ++
      " auto_create=" ++ toString r.flags.autoCreate ++
      " foreground=" ++ toString r.flags.foregroundWhileAwake ++ " -> " ++ entry.mode.text)
  let (w, calls) := World.sequence World.acts w entry.calls
  let (w, reports) := World.sequence (bindReport r.token entry.transport) w entry.reports
  let draw := if entry.mode = .foreign then [Act.deed .drawToken] else []
  ⟨entry.mode.answer r, w, calls ++ reports ++ draw⟩

/-- The binder is handed a handle back. -/
def unbind (w : World) (h : BindHandle) : Reaction Deed Unit World where
  answer := ()
  world := w.say ("unbind token " ++ toString h.token.number)

/-! ## The notification center -/

/-- The notification center receives a request for signals. -/
def subscribe (w : World) (r : SubscriptionRequest) : Reaction Deed (Except Error Unit) World :=
  let line := "subscribe s" ++ toString w.subscriptions.length ++ " user " ++ r.user.text ++
    " " ++ ",".intercalate (SignalKind.all.map SignalKind.text) ++ " -> "
  if w.failing then
    { answer := .error (.subscription "receiver registration refused")
      world := { w with subscriptions := w.subscriptions ++ [(r, false)] }.say
        (line ++ "failed") }
  else
    { answer := .ok ()
      world := { w with subscriptions := w.subscriptions ++ [(r, true)], auto := [] }.say
        (line ++ "ok")
      during := w.auto.map fun x => .report (.signal r.id x) }

/-- The notification center closes a subscription. -/
def unsubscribe (w : World) (id : Subscription) : Reaction Deed Unit World :=
  match w.subscriptions.findIdx? fun s => s.1.id == id && s.2 with
  | some i =>
    { answer := ()
      world := { w with
        subscriptions := w.subscriptions.modify i fun s => (s.1, false) }.say
        ("unsubscribe s" ++ toString i) }
  | none => { answer := (), world := w.say "unsubscribe unknown" }

/-! ## Transports -/

/-- A transport is asked to report its death. -/
def linkToDeath (w : World) (x : Session) : Reaction Deed (Except Error Unit) World :=
  match w.transports[x.transport.index]? with
  | none => { answer := .error (.deathLinkFailed "endpoint gone"), world := w }
  | some t =>
    let w := w.say ("link t" ++ toString x.transport.index ++ " token " ++
      toString x.token.number ++ " -> " ++ t.link.text)
    let linked := w.setTransport x.transport.index { t with notifier := some x.token }
    match t.link with
    | .ok => { answer := .ok (), world := linked }
    | .fail => { answer := .error (.deathLinkFailed "endpoint gone"), world := w }
    | .notify => { answer := .ok (), world := linked, during := [.report (.died x.token)] }

/-- Why a transport does not accept an event, if it does not. -/
def Transport.refusal? (t : Transport) (e : LifecycleEvent) : Option String :=
  if !t.alive then some "endpoint gone"
  else if t.rejects.contains e.method then some "call rejected"
  else if t.budget = some 0 then some "endpoint gone"
  else none

/-- A transport after an event was sent over it. -/
def Transport.afterDispatch (t : Transport) (e : LifecycleEvent) : Transport :=
  { t with
    alive := t.alive && (t.rejects.contains e.method || t.budget != some 0)
    budget := if (t.refusal? e).isNone then t.budget.map (· - 1) else t.budget
    hooks := t.hooks.filter fun h => h.1 != e.method }

/-- What a transport reports of its death. -/
def Transport.deathReport (t : Transport) : List Deed :=
  match t.notifier with
  | some token => [.report (.died token)]
  | none => []

/-- An event is sent over a transport. -/
def dispatch (w : World) (id : TransportId) (e : LifecycleEvent) :
    Reaction Deed (Except Error Unit) World :=
  match w.transports[id.index]? with
  | none => { answer := .error (.sessionDead "endpoint gone"), world := w }
  | some t =>
    let refusal := t.refusal? e
    let w := (w.setTransport id.index (t.afterDispatch e)).say
      ("dispatch t" ++ toString id.index ++ " " ++ Wire.encode e ++ " -> " ++
        refusal.getD "ok")
    let (w, hook) := World.sequence World.deeds w ((t.hooks.lookup e.method).getD [])
    match refusal with
    | none => { answer := .ok (), world := w, during := hook }
    | some why =>
      let report := if t.notifiesOnFailure then t.deathReport else []
      { answer := .error (.sessionDead why), world := w, during := hook ++ report }

/-- Sends events one after another over a new transport with a budget, or without; gives
each event with whether it was accepted. -/
def exchange (budget : Option Nat) (events : List LifecycleEvent) :
    List (LifecycleEvent × Bool) :=
  (events.foldl (fun (t, seen) e =>
    (Transport.afterDispatch t e, seen ++ [(e, (Transport.refusal? t e).isNone)]))
    (({ budget } : Transport), [])).2

/-! ## Change listeners -/

/-- A listener is called. -/
def listener (w : World) (id : ListenerId) (x : Extension) (status : Option Status) :
    Reaction Act Unit World :=
  match w.listeners[id.index]? with
  | none => { answer := (), world := w }
  | some (name, calls) =>
    let sight := match status with
      | some s => s.state.text ++ " " ++ toString s.retryCount.toNat
      | none => "none"
    let w := w.say ("listener " ++ name ++ " " ++ x.text ++ " sees " ++ sight)
    match World.sequence World.acts w calls with
    | (w, as) => { answer := (), world := w, during := as }

/-! ## All together -/

/-- The collaborators of a scenario. -/
def host : Host World where
  resolvePackage := resolvePackage
  resolveComponent := resolveComponent
  metadata := metadata
  bind := bind
  unbind := unbind
  subscribe := subscribe
  unsubscribe := unsubscribe
  linkToDeath := linkToDeath
  dispatch := dispatch
  listener := listener

end Supervision.Scenario
