import Supervision.Log
import Supervision.Scenario.World
import Supervision.System.Clock

/-!
# Playing a scenario

A scenario is a supervisor with scripted collaborators and a list of moves. In each move
something is done first, without the loop being at work; then the loop works until nothing
is left to do. The report of a move shows what came of it, what can be seen of the
supervisor afterwards, and what the collaborators and the journal have to say of it.
-/

namespace Supervision.Scenario

/-- A supervisor with scripted collaborators. -/
abbrev Stage := System World

/-! ## Results -/

/-- What comes of a step. -/
inductive Result
  /-- The step has no result. -/
  | nothing
  /-- There is no handle to do it with. -/
  | noHandle
  /-- What the step names does not exist. -/
  | noSuch
  | flag (value : Bool)
  | flags (values : List Bool)
  | text (text : String)
  | texts (texts : List (Option String))
  | status (status : Status)
  | done
  /-- The caller with this ticket waits. -/
  | waiting (ticket : Nat)
  | settled (answer : Except Error Unit)
  | several (results : List Result)

/-- What a step gives that names something that does not exist. -/
def missing (s : Stage) : Result := if s.handles = 0 then .noHandle else .noSuch

/-- A result with what a caller who waited is told. -/
def conclude (s : Stage) : Result → Result
  | .waiting ticket =>
    match s.reply? ticket with
    | some answer => .settled answer
    | none => .waiting ticket
  | r => r

/-! ## Cues -/

/-- What a view shows. -/
def look (s : Stage) : View → Result
  | .extension => .text s.extension.text
  | .status => .status s.status
  | .handle => .text s.inspectHandle

/-- What comes of a caller's step. -/
def resultOf (s : Stage) : CallerStep → Result
  | .isActive => .flag (s.isActive host)
  | .view v => look s v
  | .drop => .flag true
  | .settle =>
    match s.ticket with
    | .ok ticket => .waiting ticket
    | .error e => .settled (.error e)
  | .shutdown => .done
  | _ => .nothing

/-- A caller does something. -/
def callerStep (s : Stage) (c : CallerStep) : Stage × Result :=
  if s.handles = 0 then (s, match c with | .drop => .flag false | _ => .noHandle)
  else
    match s.world.acts c with
    | (w, as) => (as.foldl (System.act host) { s with world := w }, resultOf s c)

/-- The chosen one of several things, with its number. -/
def choose {α : Type} (as : List α) (c : Choice) : Option (Nat × α) :=
  let i := c.getD (as.length - 1)
  as[i]?.map fun a => (i, a)

/-- A collaborator reports something. -/
def report (s : Stage) (r : Report) : Stage := s.perform host (.report r)

/-- Connects a bind. -/
def connect (s : Stage) (bind : Choice) (endpoint : Endpoint) : Stage × Result :=
  match choose s.world.binds bind with
  | none => (s, missing s)
  | some (_, r) =>
    match endpoint with
    | .fresh spec =>
      match s.world.addTransport spec with
      | (w, id) => (report { s with world := w } (.connected r.token id), .nothing)
    | .existing i =>
      if i < s.world.transports.length then (report s (.connected r.token ⟨i⟩), .nothing)
      else (s, missing s)

/-- A transport reports its death; the result is whether anybody asked it to. -/
def reportDeath (s : Stage) (t : Transport) : Stage × Result :=
  (t.deathReport.foldl (System.perform host) s, .flag t.notifier.isSome)

/-- The subscriptions that a signal goes to. -/
def receivers (w : World) : Option Nat → List Subscription
  | some i => (w.subscriptions[i]?.map fun s => s.1.id).toList
  | none => (w.subscriptions.filter fun s => s.2).map fun s => s.1.id

/-- Delivers a signal; the result is for each receiver whether it could. -/
def deliver (s : Stage) (ids : List Subscription) (x : Signal) : Stage × Result :=
  let all := ids.foldl (fun (s, bs) id => (report s (.signal id x), bs ++ [s.accepts])) (s, [])
  (all.1, .flags all.2)

/-- Changes the world. -/
def change (s : Stage) (f : World → World) : Stage := { s with world := f s.world }

/-- Something is done from outside. -/
def outsideStep (s : Stage) : OutsideStep → Stage × Result
  | .registry package component metadata =>
    (change s fun w => { w with
      packageKnown := package.getD w.packageKnown
      componentKnown := component.getD w.componentKnown
      metadata := metadata.getD w.metadata }, .nothing)
  | .binder mode script =>
    (change s fun w => { w with
      mode := mode.getD w.mode, script := script.getD w.script }, .nothing)
  | .center failing auto =>
    (change s fun w => { w with
      failing := failing.getD w.failing, auto := auto.getD w.auto }, .nothing)
  | .connect bind endpoint => connect s bind endpoint
  | .disconnect bind =>
    match choose s.world.binds bind with
    | none => (s, missing s)
    | some (_, r) => (report s (.disconnected r.token), .nothing)
  | .kill transport =>
    match choose s.world.transports transport with
    | none => (s, missing s)
    | some (i, t) => reportDeath (change s fun w => w.setTransport i { t with alive := false }) t
  | .notify transport =>
    match choose s.world.transports transport with
    | none => (s, missing s)
    | some (_, t) => reportDeath s t
  | .amend transport spec =>
    match choose s.world.transports transport with
    | none => (s, missing s)
    | some (i, t) => (change s fun w => w.setTransport i (t.amend spec), .nothing)
  | .signal subscription x => deliver s (receivers s.world subscription) x
  | .inspect bind subscription transport =>
    let b := (choose s.world.binds bind).map Prod.snd
    let x := (choose s.world.subscriptions subscription).map fun s => s.2.1
    let t := (choose s.world.transports transport).bind fun t => t.2.notifier
    (s, .texts [b.map BindRequest.inspect, b.map fun b => b.token.inspectEvents,
      b.map fun b => (BindHandle.mk b.token).inspect, x.map SubscriptionRequest.inspect,
      t.map BindToken.inspectNotifier, t.map BindToken.inspectSession])

/-- One thing is done. -/
def cue (s : Stage) : Cue → Stage × Result
  | .caller c => callerStep s c
  | .outside o => outsideStep s o
  | .unknown => (s, missing s)

/-- Several things are done, one after another. -/
def cues (s : Stage) (as : List Cue) : Stage × List Result :=
  as.foldl (fun (s, rs) a => match cue s a with | (s, r) => (s, rs ++ [r])) (s, [])

/-! ## Moves -/

/-- How many steps the loop may take in a move; no script keeps it busy for so long. -/
def patience : Nat := 1000000000000

/-- The loop works until nothing is left to do. Then those who waited for it go, and if that
leaves nobody who holds on to the supervisor, the loop stops. -/
def settle (s : Stage) : Stage :=
  let s := s.settle host patience
  (s.leave s.calling).settle host patience

/-- Some milliseconds pass. The loop works while they do, and so not at all if there are
none. -/
def pass (s : Stage) (span : Nat) : Stage :=
  if span = 0 then s else s.runUntil host (s.clock + span) patience

/-- Makes a move. -/
def move (s : Stage) : Move → Stage × Result
  | .one a =>
    match cue s a with
    | (s, r) => let s := settle s; (s, conclude s r)
  | .batch as =>
    match cues s as with
    | (s, rs) => let s := settle s; (s, .several (rs.map (conclude s)))
  | .advance span as =>
    match cues (pass s span) as with
    | (s, rs) => let s := settle s.fireDue; (s, .several (rs.map (conclude s)))

/-! ## Reports -/

/-- What can be seen through a handle. -/
structure Sight where
  connected : Bool
  listening : Bool
  pendingClick : Bool

/-- What can be seen through a handle, if there is one. -/
def sight? (s : Stage) : Option Sight :=
  if s.handles = 0 then none
  else some ⟨s.slot.isSome, s.pending.listening, s.pending.contains .click⟩

/-- What there is to say of a move. -/
structure Account where
  result : Result
  status : Status
  /-- Whether a status was published; nothing after the stop. -/
  changed : Option Bool
  sight : Option Sight
  trace : List String
  log : List String

/-- Whether a fact is the publication of a status. -/
def isPublication : Fact → Bool
  | .published _ => true
  | _ => false

/-- What a move added to a journal. -/
def added (before after : Journal) : Journal := after.take (after.length - before.length)

/-- Makes a move and reports on it; `before` is the journal as it was last reported on. -/
def play (before : Journal) (s : Stage) (m : Move) : Stage × Account :=
  let s := change s fun w => { w with trace := [] }
  let (s, r) := move s m
  let news := added before s.journal
  (s, { result := r
        status := s.status
        changed := if s.isOpen then some (news.any fun x => isPublication x.fact) else none
        sight := sight? s
        trace := s.world.trace.reverse
        log := (Journal.logLines s.extension news).map LogLine.text })

/-- The reports on all moves. -/
def playAll (before : Journal) (s : Stage) : List Move → List Account
  | [] => []
  | m :: ms =>
    match play before s m with
    | (s, r) => r :: playAll s.journal s ms

/-- Starts a supervisor and makes all moves. -/
def run (a : Assembly) (ms : List Move) : Except Error (List Account) :=
  match a.check with
  | .error e => .error e
  | .ok _ => .ok (playAll [] (System.spawn a.extension a.config {}) ms)

end Supervision.Scenario
