import Waypost.Service.Recovery
import Waypost.Service.Registry

/-!
# Dispatch

A request is matched against the routes, its session is looked up and guarded, and the handler of
the route is run. `dispatch` ends with a fault where one of these fails; `handle` answers the fault.
-/

namespace Waypost.Service

open Access Time

/-- What is needed to serve requests. -/
structure Dispatcher (α : Type) where
  table : Route.Table
  handlers : Registry (Handler α)
  credentials : Credentials := {}
  /-- The time that the guard goes by, if it is not the world's. -/
  clock : Option Instant := none
  rules : ErrorRules α := []
  debug : Bool := false

/-- The event of a request that the guard denies. -/
def deniedEvent (verdict : Verdict) (required : Level) (credential : Option Session) (r : Request) :
    SecurityEvent where
  name := "auth.denied." ++ verdict.name
  method := .text r.method
  path := .text r.path
  userId := .ofText? (credential.map Session.userId)
  details := .object [("required", .text required.label)]

namespace Dispatcher

variable {α : Type}

/-- What the guard objects to, if anything; a denial is reported. -/
def authorize (required : Level) (credential : Option Session) (now : Instant) (r : Request)
    (j : Journal) : Option HttpError × Journal :=
  match guard required credential now with
  | .allowed => (none, j)
  | .unauthenticated =>
    (some .unauthorized, j.emit (deniedEvent .unauthenticated required credential r))
  | .insufficientLevel =>
    (some .forbidden, j.emit (deniedEvent .insufficientLevel required credential r))

/-- Runs the handler of an entry and turns its value into a response. -/
def invoke (d : Dispatcher α) (ctx : Context) (e : Route.Entry) (params : Params)
    (credential : Option Session) (r : Request) : Act α Response := fun w =>
  match d.handlers.get? e.handlerId with
  | none => (.error (.noHandler e.handlerId), w)
  | some handler =>
    match handler params (r.withPathParams params) { ctx with session := credential } w with
    | (.error f, w) => (.error f, w)
    | (.ok v, w) =>
      match v.toResponse with
      | .error err => (.error (.reply err), w)
      | .ok resp => (.ok resp, w)

/-- Guards an entry and runs its handler. -/
def serve (d : Dispatcher α) (ctx : Context) (e : Route.Entry) (params : Params) (r : Request) :
    Act α Response := fun w =>
  match d.credentials.resolve w.store r w.journal with
  | (.error f, j) => (.error f, w.withJournal j)
  | (.ok credential, j) =>
    match authorize e.level credential (d.clock.getD w.now) r j with
    | (some err, j) => (.error (.http err), w.withJournal j)
    | (none, j) => d.invoke ctx e params credential r (w.withJournal j)

/-- Serves a request; what goes wrong is a fault. -/
def dispatch (d : Dispatcher α) (ctx : Context) (r : Request) : Act α Response := fun w =>
  match d.table.lookup r.method r.path with
  | .noRoute _ => (.error (.http .notFound), w)
  | .methodNotAllowed _ allowed => (.error (.http (.methodNotAllowed allowed)), w)
  | .matched e params => d.serve ctx e params r w

/-- Serves a request; what goes wrong is answered. -/
def handle (d : Dispatcher α) (r : Request) : Act α Response := fun w =>
  match d.dispatch .outside r w with
  | (.ok resp, w) => (.ok resp, w)
  | (.error f, w) => answer d.rules d.debug r f w

end Dispatcher

end Waypost.Service
