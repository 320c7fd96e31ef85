import Waypost.Keyed

/-!
# A lock for readers and writers

Any number of readers may be inside, or one writer alone; a writer that waits keeps new readers out.
Each operation is one step of the lock: `ask` enters or parks, `retry` lets a woken thread look
again, and `release` leaves and wakes the parked threads when nobody is inside any more. `abandon`
ends the wait of a thread that is interrupted. `settle` lets every woken thread look again.
-/

namespace Waypost

/-- What a thread wants of the lock. -/
inductive LockMode where
  | read
  | write
deriving DecidableEq, Repr

/-- The name of a mode. -/
def LockMode.name : LockMode → String
  | .read => "read"
  | .write => "write"

/-- Where a thread stands. -/
inductive LockPhase where
  | inside (mode : LockMode)
  /-- Waiting to be woken. -/
  | parked (mode : LockMode)
  /-- Woken, and about to look again. -/
  | woken (mode : LockMode)
deriving DecidableEq, Repr

/-- The state of the lock, with the threads that use it. -/
structure Lock where
  readers : Nat := 0
  writer : Bool := false
  writersWaiting : Nat := 0
  threads : List (String × LockPhase) := []
deriving DecidableEq, Repr

namespace Lock

/-- Where a thread stands, if it uses the lock. -/
def phase? (l : Lock) (thread : String) : Option LockPhase :=
  Keyed.get? thread l.threads

/-- Whether a thread that looks now has to wait. A writer counts among those that wait. -/
def blocked (l : Lock) : LockMode → Bool
  | .read => l.writer || l.writersWaiting ≠ 0
  | .write => l.writer || l.readers ≠ 0

/-- Lets a thread in. -/
def enter (l : Lock) (thread : String) : LockMode → Lock
  | .read =>
    { l with readers := l.readers + 1, threads := Keyed.put thread (.inside .read) l.threads }
  | .write =>
    { l with
      writer := true
      writersWaiting := l.writersWaiting - 1
      threads := Keyed.put thread (.inside .write) l.threads }

/-- Lets a thread look: it enters or is parked. -/
def look (l : Lock) (thread : String) (mode : LockMode) : Lock :=
  if l.blocked mode then { l with threads := Keyed.put thread (.parked mode) l.threads }
  else l.enter thread mode

/-- A thread asks for the lock; nothing happens if it already uses it. -/
def ask (l : Lock) (thread : String) (mode : LockMode) : Option Lock :=
  match l.phase? thread with
  | some _ => none
  | none =>
    match mode with
    | .read => some (l.look thread .read)
    | .write => some ({ l with writersWaiting := l.writersWaiting + 1 }.look thread .write)

/-- A woken thread looks again. -/
def retry (l : Lock) (thread : String) : Lock :=
  match l.phase? thread with
  | some (.woken mode) => l.look thread mode
  | _ => l

/-- Wakes every parked thread. -/
def wakeAll (l : Lock) : Lock :=
  { l with
    threads := l.threads.map fun t =>
      match t.2 with
      | .parked mode => (t.1, .woken mode)
      | _ => t }

/-- A thread leaves; nothing happens if it is not inside. -/
def release (l : Lock) (thread : String) : Option Lock :=
  match l.phase? thread with
  | some (.inside .read) =>
    let l := { l with readers := l.readers - 1, threads := Keyed.erase thread l.threads }
    some (if l.readers = 0 then l.wakeAll else l)
  | some (.inside .write) =>
    some ({ l with writer := false, threads := Keyed.erase thread l.threads }.wakeAll)
  | _ => none

/-- Takes back what a waiting thread has asked for. -/
def withdraw (l : Lock) (thread : String) : LockMode → Lock
  | .read => { l with threads := Keyed.erase thread l.threads }
  | .write =>
    { l with writersWaiting := l.writersWaiting - 1, threads := Keyed.erase thread l.threads }

/-- A thread is interrupted while it waits; nothing happens if it does not wait. -/
def abandon (l : Lock) (thread : String) : Option Lock :=
  match l.phase? thread with
  | some (.parked mode) => some (l.withdraw thread mode)
  | some (.woken mode) => some (l.withdraw thread mode)
  | _ => none

/-- Lets every woken thread look again. -/
def settle (l : Lock) : Lock :=
  (Keyed.keys l.threads).foldl retry l

/-- The threads inside, with their modes. -/
def holding (l : Lock) : List (String × LockMode) :=
  l.threads.filterMap fun t =>
    match t.2 with
    | .inside mode => some (t.1, mode)
    | _ => none

/-- The threads that wait, with their modes. -/
def waiting (l : Lock) : List (String × LockMode) :=
  l.threads.filterMap fun t =>
    match t.2 with
    | .inside _ => none
    | .parked mode => some (t.1, mode)
    | .woken mode => some (t.1, mode)

end Lock

end Waypost
