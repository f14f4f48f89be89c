import Supervision.Host

/-!
# Scripts

A scenario tries a supervisor out with collaborators that follow a script. This module is
the language of such scripts: what a caller does, how a transport behaves, how the binder
treats a request, and what is done to the collaborators from outside.
-/

namespace Supervision.Scenario

/-! ## Callers -/

/-- What a caller looks at without changing anything. -/
inductive View
  | extension | status | handle
  deriving DecidableEq

/-- What a caller does with a handle. -/
inductive CallerStep
  | setEnabled (enabled : Bool)
  | flush
  | tell (event : LifecycleEvent)
  /-- Sets a listener that is known by a name and does something when it is called. -/
  | listen (name : String) (calls : List CallerStep)
  | clearListener
  | isActive
  | view (view : View)
  | clone
  | drop
  | settle
  | shutdown

/-! ## Transports -/

/-- What a transport does when it is asked to report its death. -/
inductive LinkMode
  | ok
  | fail
  /-- It reports its death at once. -/
  | notify
  deriving DecidableEq

/-- The name of a link mode. -/
def LinkMode.text : LinkMode → String
  | .ok => "ok"
  | .fail => "fail"
  | .notify => "notify"

/-- A transport: how it behaves, and whose death it has been asked to report. -/
structure Transport where
  alive : Bool := true
  /-- The methods it rejects without dying. -/
  rejects : List String := []
  /-- How many more events it accepts before it dies. -/
  budget : Option Nat := none
  link : LinkMode := .ok
  /-- Whether it reports its death with each event it does not accept. -/
  notifiesOnFailure : Bool := false
  /-- What callers do at the first dispatch of a method. -/
  hooks : List (String × List CallerStep) := []
  notifier : Option BindToken := none

/-- The behaviour of a transport as far as it is specified. -/
structure TransportSpec where
  alive : Option Bool := none
  rejects : Option (List String) := none
  /-- A budget, or that there is none. -/
  budget : Option (Option Nat) := none
  link : Option LinkMode := none
  notifiesOnFailure : Option Bool := none
  hooks : Option (List (String × List CallerStep)) := none

/-- A transport with the behaviour specified, and as before where nothing is. -/
def Transport.amend (t : Transport) (s : TransportSpec) : Transport :=
  { t with
    alive := s.alive.getD t.alive
    rejects := s.rejects.getD t.rejects
    budget := s.budget.getD t.budget
    link := s.link.getD t.link
    notifiesOnFailure := s.notifiesOnFailure.getD t.notifiesOnFailure
    hooks := s.hooks.getD t.hooks }

/-! ## The binder -/

/-- How the binder treats a request. -/
inductive BindMode
  | accept
  /-- It accepts with a handle of another token, which it draws. -/
  | foreign
  | reject (reason : String)
  | refuse
  /-- It is gone. -/
  | dead
  deriving DecidableEq

/-- The name of a bind mode. -/
def BindMode.text : BindMode → String
  | .accept => "accept"
  | .foreign => "foreign"
  | .reject _ => "reject"
  | .refuse => "refuse"
  | .dead => "dead"

/-- What the binder reports while it is called. -/
inductive BindReport
  /-- A connection, with a new transport. -/
  | connect
  | disconnect
  deriving DecidableEq

/-- What the binder does with one request. -/
structure BindEntry where
  mode : BindMode := .accept
  calls : List CallerStep := []
  reports : List BindReport := []
  transport : TransportSpec := {}

/-! ## The world outside -/

/-- Which of several things is meant: one by its number, or else the last. -/
abbrev Choice := Option Nat

/-- The transport of a connection. -/
inductive Endpoint
  | fresh (spec : TransportSpec)
  | existing (index : Nat)

/-- What is done to the collaborators, or by them, between calls. -/
inductive OutsideStep
  /-- What the registry knows from now on; metadata may be there or not. -/
  | registry (package component : Option Bool) (metadata : Option (Option Metadata))
  | binder (mode : Option BindMode) (script : Option (List BindEntry))
  | center (failing : Option Bool) (auto : Option (List Signal))
  | connect (bind : Choice) (endpoint : Endpoint)
  | disconnect (bind : Choice)
  /-- A transport dies and reports it. -/
  | kill (transport : Choice)
  /-- A transport reports its death. -/
  | notify (transport : Choice)
  | amend (transport : Choice) (spec : TransportSpec)
  /-- A signal to one subscription, or to all that are open. -/
  | signal (subscription : Option Nat) (signal : Signal)
  /-- What collaborators hold is inspected. -/
  | inspect (bind subscription transport : Choice)

/-! ## Scenarios -/

/-- One thing that is done. -/
inductive Cue
  | caller (step : CallerStep)
  | outside (step : OutsideStep)
  /-- Something that nobody knows how to do. -/
  | unknown

/-- What is done before the loop gets to work. -/
inductive Move
  | one (cue : Cue)
  /-- Several things, one after another. -/
  | batch (cues : List Cue)
  /-- Some milliseconds pass, then several things are done. -/
  | advance (span : Nat) (cues : List Cue)

end Supervision.Scenario
