import Waypost.Browser.Engine

/-!
# Those who listen to the engine

A listener either takes note of every event, or acts on the first events of a class: it may submit
an intent, go back, change who is signed in, remove a listener, or fail. An event is told to those
who listen when it happens, in the order in which they came, even if one of them is removed
meanwhile. A listener that fails is logged and otherwise ignored.

Reactions may cause further events. Each of them uses up one of the times that a listener acts, so
`Audience.budget` bounds how deep they nest.
-/

namespace Waypost.Browser

open Access

/-- What a listener does when it acts. -/
inductive Reaction where
  | fail
  | submit (path : String) (trigger : Trigger)
  | remove (listener : String)
  | goBack
  | become (session : Option Session)
deriving DecidableEq, Repr

/-- What a listener is there for: to take note of all events, or to act on those of one class, or of
any. -/
inductive Role where
  | note
  | act (on : Option String) (reaction : Reaction)
deriving DecidableEq, Repr

/-- One who listens. -/
structure Listener where
  id : Nat
  name : String
  role : Role
deriving DecidableEq, Repr

/-- What was heard: an event, with the phase and the place of the engine at that moment, or one that
a listener acted on. -/
inductive Heard where
  | noted (listener : String) (event : Event) (phase : Phase) (path : String) (position : Nat)
  | acted (listener : String) (event : Event)
deriving Inhabited

/-- Those who listen and what they have heard. -/
structure Audience where
  listeners : List Listener := []
  /-- The listener that a name stands for. -/
  names : List (String × Nat) := []
  /-- How often each listener may still act. -/
  remaining : List (Nat × Nat) := []
  /-- How many listeners there have been. -/
  count : Nat := 0
  heard : List Heard := []
  /-- The generations of the intents whose outcome someone waits for. -/
  awaited : List Nat := []
deriving Inhabited

namespace Audience

/-- How often all listeners together may still act. -/
def budget (a : Audience) : Nat :=
  a.remaining.foldr (fun r n => r.2 + n) 0

/-- Adds a listener that acts at most `times` times. -/
def subscribe (a : Audience) (name : String) (role : Role) (times : Nat) : Audience :=
  { a with
    listeners := a.listeners ++ [⟨a.count, name, role⟩]
    names := Keyed.put name a.count a.names
    remaining := a.remaining ++ [(a.count, times)]
    count := a.count + 1 }

/-- Removes the listener that a name stands for, if it is still there. -/
def unsubscribe (a : Audience) (name : String) : Except Fault Audience :=
  match Keyed.get? name a.names with
  | none => .error (.missing name)
  | some id => .ok { a with listeners := a.listeners.filter fun l => l.id ≠ id }

/-- Adds something that was heard. -/
def hears (a : Audience) (h : Heard) : Audience :=
  { a with heard := a.heard ++ [h] }

/-- Lets a listener act once; nothing if it has acted often enough. -/
def spend? (a : Audience) (id : Nat) : Option Audience :=
  match Keyed.get? id a.remaining with
  | some (n + 1) => some { a with remaining := Keyed.put id n a.remaining }
  | _ => none

end Audience

namespace Engine

/-- The report of a listener that fails on an event. -/
def listenerFailed (e : Engine Audience) (event : Event) (kind : Fault.Kind) : Engine Audience :=
  { e with
    journal :=
      e.journal.log ⟨.error, .client, "Flow listener failed on " ++ event.name, some kind⟩ }

/-- Submits an intent whose outcome someone waits for. -/
def submitAwaited (tell : Event → Engine Audience → Engine Audience) (e : Engine Audience)
    (path : String) (trigger : Trigger) (replace : Bool) (index : Option Int) : Engine Audience :=
  let (generation, e) := e.submit tell path trigger replace index
  { e with own := { e.own with awaited := e.own.awaited ++ [generation] } }

/-- Changes who is signed in, where that is given and not found out. -/
def become (e : Engine Audience) (s : Option Session) : Engine Audience :=
  match e.source with
  | .given _ => { e with source := .given s }
  | .wallet => e

/-- Carries out a reaction to an event. -/
def react (tell : Event → Engine Audience → Engine Audience) (e : Engine Audience) (event : Event) :
    Reaction → Engine Audience
  | .fail => e.listenerFailed event .runtime
  | .submit path trigger => e.submitAwaited tell path trigger false none
  | .remove name =>
    match e.own.unsubscribe name with
    | .error f => e.listenerFailed event f.kind
    | .ok own => { e with own }
  | .goBack => (e.travel tell .back).2
  | .become s => e.become s

/-- Tells one listener of an event. -/
def tellOne (tell : Event → Engine Audience → Engine Audience) (event : Event) (e : Engine Audience)
    (l : Listener) : Engine Audience :=
  match l.role with
  | .note =>
    { e with own := e.own.hears (.noted l.name event e.phase e.trail.currentPath e.trail.position) }
  | .act on reaction =>
    if on.all (· = event.name) then
      match e.own.spend? l.id with
      | none => e
      | some own => { e with own := own.hears (.acted l.name event) }.react tell event reaction
    else e

/-- Tells all listeners of an event, where reactions nest at most `depth` deep. -/
def tellFor : Nat → Event → Engine Audience → Engine Audience
  | 0, _, e => e
  | depth + 1, event, e => e.own.listeners.foldl (tellOne (tellFor depth) event) e

/-- Tells all listeners of an event. -/
def tellAll (event : Event) (e : Engine Audience) : Engine Audience :=
  tellFor (e.own.budget + 1) event e

end Engine

end Waypost.Browser
