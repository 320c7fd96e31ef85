import Waypost.Access.Session
import Waypost.Browser.History

/-!
# Intents, the trail and events

An intent is a wish to go somewhere. The trail is what the navigation engine knows of the browser's
history; `Trail.committed` and `Trail.moved` say how it changes. Every intent ends with one event.
-/

namespace Waypost.Browser

/-- A wish to go somewhere. The engine numbers them in order; `historyIndex` is the entry that a
move of the browser has landed on. -/
structure Intent where
  path : String
  trigger : Trigger := .programmatic
  replace : Bool := false
  generation : Nat := 0
  historyIndex : Option Int := none
deriving DecidableEq, Repr, Inhabited

/-- The part of the history that the engine knows; `position` is the entry of the current path. -/
structure Trail where
  currentPath : String
  stack : List String
  position : Nat := 0
  /-- The newest intent that has not been dealt with. -/
  pending : Option Intent := none
deriving DecidableEq, Repr, Inhabited

namespace Trail

/-- The trail of a page that has just been opened. -/
def start (path : String) : Trail := { currentPath := path, stack := [path] }

/-- The trail after a click or a programmatic intent. -/
def committed (t : Trail) (i : Intent) : Trail :=
  if i.replace then { t with currentPath := i.path, stack := t.stack.set t.position i.path }
  else
    { t with
      currentPath := i.path
      stack := t.stack.take (t.position + 1) ++ [i.path]
      position := t.position + 1 }

/-- The trail with its position on entry `index` of the browser and `path` there; `offset` is the
browser's index of the first known entry, and the new one is returned too. Entries between the known
ones and `index` are filled in with `path`. -/
def moved (t : Trail) (offset index : Int) (path : String) : Trail × Int :=
  let place := index - offset
  if place < 0 then
    ({ t with stack := (List.replicate (-place).toNat path ++ t.stack).set 0 path, position := 0 },
      index)
  else
    let p := place.toNat
    let gap := List.replicate (p + 1 - t.stack.length) path
    ({ t with stack := (t.stack ++ gap).set p path, position := p }, offset)

end Trail

/-- Where the engine is in dealing with an intent. -/
inductive Phase where
  | idle
  | evaluating
  | blocked
  | committing
  | settled
deriving DecidableEq, Repr

/-- The name of a phase. -/
def Phase.name : Phase → String
  | .idle => "idle"
  | .evaluating => "evaluating"
  | .blocked => "blocked"
  | .committing => "committing"
  | .settled => "settled"

/-- What the engine reports. -/
inductive Event where
  | settled (intent : Intent) (viewId : String) (params : List (String × String))
  | blocked (intent : Intent) (reason : Access.Verdict) (correctedPath : Option String)
  | failed (intent : Intent) (fault : Fault)
  | superseded (intent by_ : Intent)
  | viewLoaded (intent : Intent) (data : Json)
  | viewLoadFailed (intent : Intent) (fault : Fault)
deriving Inhabited

namespace Event

/-- The name of an event's class. -/
def name : Event → String
  | .settled .. => "Settled"
  | .blocked .. => "Blocked"
  | .failed .. => "Failed"
  | .superseded .. => "Superseded"
  | .viewLoaded .. => "ViewLoaded"
  | .viewLoadFailed .. => "ViewLoadFailed"

/-- The intent that an event is about. -/
def intent : Event → Intent
  | .settled i .. => i
  | .blocked i .. => i
  | .failed i _ => i
  | .superseded i _ => i
  | .viewLoaded i _ => i
  | .viewLoadFailed i _ => i

end Event

end Waypost.Browser
