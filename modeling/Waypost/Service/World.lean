import Waypost.Access.Credentials
import Waypost.Message.Body

/-!
# What application code works on

Handlers, error handlers, middleware and hooks are functions on a `World`: the sessions, the clock,
the journal, the body of the request at hand, and a part of the application's own. Such a function
ends with a result or with a fault, and in both cases with a changed world.
-/

namespace Waypost.Service

open Access Time

/-- The state that application code sees and changes; `own` belongs to the application. -/
structure World (α : Type) where
  store : Store
  now : Instant
  journal : Journal := {}
  /-- The body of the request at hand. -/
  inbox : Inbox := {}
  own : α

/-- A piece of application code. -/
abbrev Act (α β : Type) := ExceptT Fault (StateM (World α)) β

/-- The request being served, and the session it came with. -/
structure Context where
  request : Option Request := none
  session : Option Session := none

/-- The context outside of any request. -/
def Context.outside : Context := {}

/-- The request being served. -/
def Context.current (c : Context) : Except Fault Request :=
  match c.request with
  | none => .error .noRequest
  | some r => .ok r

/-- The parameters that a route has bound. -/
abbrev Params := List (String × String)

/-- Serves a request; it gets the bound parameters and the request that carries them. -/
abbrev Handler (α : Type) := Params → Request → Context → Act α Value

/-- Stands between a request and what serves it, and gets the next one in line. -/
abbrev Middleware (α : Type) := Context → (Request → Act α Value) → Request → Act α Value

/-- The world with another journal. -/
def World.withJournal {α : Type} (w : World α) (j : Journal) : World α :=
  { w with journal := j }

namespace World

variable {α : Type}

/-- Issues a session. -/
def issue (w : World α) (userId : String) (level : Level) (ttl : Option Duration) :
    Except Fault Session × World α :=
  match w.store.issue w.now userId level ttl w.journal with
  | (.error e, s, j) => (.error (.range e), { w with store := s, journal := j })
  | (.ok session, s, j) => (.ok session, { w with store := s, journal := j })

/-- Revokes a session. -/
def revoke (w : World α) (token : String) : Bool × World α :=
  let (found, s, j) := w.store.revoke token w.journal
  (found, { w with store := s, journal := j })

/-- Removes the sessions that have ended. -/
def purge (w : World α) : Nat × World α :=
  let (n, s, j) := w.store.purge w.now w.journal
  (n, { w with store := s, journal := j })

/-- Moves the clock; it stays where it is if it would leave the range of dates. -/
def advance (w : World α) (by_ : Int) : Except Fault Instant × World α :=
  match Duration.ofMicros by_ with
  | .error e => (.error (.range e), w)
  | .ok d =>
    match Instant.add w.now d with
    | .error e => (.error (.range e), w)
    | .ok t => (.ok t, { w with now := t })

/-- Adds a record to the journal. -/
def log (w : World α) (r : LogRecord) : World α :=
  { w with journal := w.journal.log r }

end World

end Waypost.Service
