import Waypost.Fault.Basic

/-!
# Browser history

The entries that a browser has visited and the one it is on. New entries drop what lies ahead; going
back and forward moves along the entries and tells those who watch, in the order in which they came.
-/

namespace Waypost.Browser

/-- What makes a page go somewhere. -/
inductive Trigger where
  | userClick
  | back
  | forward
  | programmatic
deriving DecidableEq, Repr

namespace Trigger

/-- The name of a trigger. -/
def name : Trigger → String
  | .userClick => "user_click"
  | .back => "back"
  | .forward => "forward"
  | .programmatic => "programmatic"

/-- The trigger with a given name. -/
def ofName? (s : String) : Option Trigger :=
  [userClick, back, forward, programmatic].find? fun t => t.name == s

/-- Whether the browser has already moved. -/
def isExternal : Trigger → Bool
  | .back | .forward => true
  | .userClick | .programmatic => false

end Trigger

/-- The entries of a browser and the index of the current one. -/
structure History where
  entries : List String
  index : Nat
deriving DecidableEq, Repr, Inhabited

namespace History

/-- A history with one entry. -/
def start (path : String) : History := ⟨[path], 0⟩

/-- The path that the browser shows. -/
def current (h : History) : String :=
  h.entries.getD h.index ""

/-- The number of entries. -/
def length (h : History) : Nat :=
  h.entries.length

/-- Drops what lies ahead and adds an entry. -/
def push (h : History) (path : String) : History :=
  ⟨h.entries.take (h.index + 1) ++ [path], h.index + 1⟩

/-- Changes the current entry. -/
def replace (h : History) (path : String) : History :=
  { h with entries := h.entries.set h.index path }

/-- One entry back, unless the browser is on the first. -/
def back? (h : History) : Option History :=
  if h.index = 0 then none else some { h with index := h.index - 1 }

/-- One entry forward, unless the browser is on the last. -/
def forward? (h : History) : Option History :=
  if h.index + 1 < h.length then some { h with index := h.index + 1 } else none

/-- The move that a trigger stands for. -/
def move? (h : History) : Trigger → Option History
  | .back => h.back?
  | .forward => h.forward?
  | _ => none

end History

/-- What a watcher does when it is told of a move. -/
inductive Watch where
  | listen
  | fail
  | leave
  | push (path : String)
deriving DecidableEq, Repr

/-- One who watches the moves of a browser. -/
structure Watcher where
  id : Nat
  name : String
  watch : Watch
deriving DecidableEq, Repr

/-- What a watcher is told. -/
structure Sighting where
  watcher : String
  path : String
  trigger : Trigger
  index : Nat
deriving DecidableEq, Repr

/-- A history with those who watch it and what they have been told. -/
structure WatchedHistory where
  history : History
  watchers : List Watcher := []
  /-- The watcher that a name stands for. -/
  names : List (String × Nat) := []
  sightings : List Sighting := []
  /-- How many watchers there have been. -/
  count : Nat := 0
deriving Inhabited

namespace WatchedHistory

/-- Adds a watcher. -/
def subscribe (h : WatchedHistory) (name : String) (watch : Watch) : WatchedHistory :=
  { h with
    watchers := h.watchers ++ [⟨h.count, name, watch⟩]
    names := Keyed.put name h.count h.names
    count := h.count + 1 }

/-- Removes a watcher, if it is still there. -/
def drop (h : WatchedHistory) (id : Nat) : WatchedHistory :=
  { h with watchers := h.watchers.filter fun w => w.id ≠ id }

/-- Removes the watcher that a name stands for. -/
def unsubscribe (h : WatchedHistory) (name : String) : Except Fault WatchedHistory :=
  match Keyed.get? name h.names with
  | none => .error (.missing name)
  | some id => .ok (h.drop id)

/-- Tells watchers of a move to a path, up to the first that fails. -/
def tell (path : String) (t : Trigger) :
    List Watcher → WatchedHistory → Except Fault Unit × WatchedHistory
  | [], h => (.ok (), h)
  | w :: ws, h =>
    let h := { h with sightings := h.sightings ++ [⟨w.name, path, t, h.history.index⟩] }
    match w.watch with
    | .listen => tell path t ws h
    | .fail => (.error (.raised .runtime [.text ("listener " ++ w.name)]), h)
    | .leave => tell path t ws (h.drop w.id)
    | .push p => tell path t ws { h with history := h.history.push p }

/-- Moves the browser and tells the watchers; says whether there was somewhere to go. -/
def move (h : WatchedHistory) (t : Trigger) : Except Fault Bool × WatchedHistory :=
  match h.history.move? t with
  | none => (.ok false, h)
  | some moved =>
    match tell moved.current t h.watchers { h with history := moved } with
    | (.error e, h) => (.error e, h)
    | (.ok (), h) => (.ok true, h)

end WatchedHistory

end Waypost.Browser
