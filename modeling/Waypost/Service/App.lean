import Waypost.Service.Config
import Waypost.Service.Dispatcher

/-!
# Applications

An application is put together by registering routes, handlers, error handlers, middleware and
hooks. It is frozen before it serves its first request; from then on it cannot be changed. A
registration that fails changes nothing.
-/

namespace Waypost.Service

open Access

/-- An application. -/
structure App (α : Type) where
  config : Config := {}
  table : Route.Table := {}
  handlers : Registry (Handler α) := {}
  /-- The first one is outermost. -/
  middleware : List (Middleware α) := []
  rules : ErrorRules α := []
  startHooks : List (Act α Unit) := []
  stopHooks : List (Act α Unit) := []
  frozen : Bool := false

/-- What is said about a route when its handler is given. -/
structure RouteSpec where
  path : String
  methods : List String := []
  level : Level := .anonymous
  handlerId : Option String := none
  label : Option String := none

namespace RouteSpec

/-- The entries of a route, one for each method. The label goes to the first. -/
def entries (s : RouteSpec) (id : String) (p : Route.Pattern) : List Route.Entry :=
  let methods := if s.methods.isEmpty then ["GET"] else s.methods
  methods.zipIdx.map fun m =>
    { method := Text.upper m.1, pattern := p, handlerId := id, level := s.level
      label := if m.2 = 0 then s.label else none }

end RouteSpec

namespace App

variable {α : Type}

/-- An application with nothing registered, and the threshold of its journal. -/
def create (config : Config) : Except Fault (App α × Nat) :=
  match config.threshold with
  | .error e => .error (.setup e)
  | .ok n => .ok ({ config }, n)

/-- Where requests carry their sessions. -/
def credentials (a : App α) : Credentials :=
  a.config.credentials

/-- A change that is possible until the application is frozen. -/
def whenOpen (a : App α) (change : Except Fault (App α)) : Except Fault (App α) :=
  if a.frozen then .error (.setup .alreadyServing) else change

/-- Registers a handler together with its route. The handler's own name is its id unless another one
is given. -/
def route (a : App α) (s : RouteSpec) (name : String) (h : Handler α) (j : Journal) :
    Except Fault (App α) × Journal :=
  if a.frozen then (.error (.setup .alreadyServing), j)
  else
    let id := (nonEmpty? s.handlerId).getD name
    if a.handlers.contains id then (.error (.setup (.handlerTaken id)), j)
    else
      match Route.Pattern.parse s.path with
      | .error flaw => (.error (.register (.invalid s.path flaw)), j)
      | .ok p =>
        match a.table.registerNoting (s.entries id p) j with
        | (.error e, j) => (.error (.register e), j)
        | (.ok table, j) =>
          match a.handlers.register id h with
          | .error e => (.error (.setup e), j)
          | .ok handlers => (.ok { a with table, handlers }, j)

/-- Registers a handler without a route. -/
def handler (a : App α) (id : String) (h : Handler α) : Except Fault (App α) :=
  a.whenOpen <|
    match a.handlers.register id h with
    | .error e => .error (.setup e)
    | .ok handlers => .ok { a with handlers }

/-- Registers a route whose handler is registered elsewhere. -/
def addRoute (a : App α) (method path handlerId : String) (level : Level) (label : Option String)
    (j : Journal) : Except Fault (Route.Entry × App α) × Journal :=
  if a.frozen then (.error (.setup .alreadyServing), j)
  else
    match Route.Table.parseEntry method path handlerId level label with
    | .error e => (.error (.register e), j)
    | .ok entry =>
      match a.table.registerNoting [entry] j with
      | (.error e, j) => (.error (.register e), j)
      | (.ok table, j) => (.ok (entry, { a with table }), j)

/-- Registers an error handler; a later one for the same key takes its place. -/
def onError (a : App α) (key : ErrorKey) (h : ErrorHandler α) : Except Fault (App α) :=
  a.whenOpen (.ok { a with rules := Keyed.put key h a.rules })

/-- Adds middleware inside of what is there. -/
def addMiddleware (a : App α) (m : Middleware α) : Except Fault (App α) :=
  a.whenOpen (.ok { a with middleware := a.middleware ++ [m] })

/-- Adds a hook that runs when the application starts. -/
def onStart (a : App α) (hook : Act α Unit) : Except Fault (App α) :=
  a.whenOpen (.ok { a with startHooks := a.startHooks ++ [hook] })

/-- Adds a hook that runs when the application stops. -/
def onStop (a : App α) (hook : Act α Unit) : Except Fault (App α) :=
  a.whenOpen (.ok { a with stopHooks := a.stopHooks ++ [hook] })

/-- The path of a labelled route. -/
def urlFor (a : App α) (label : String) (args : Route.Arguments) : Except Fault String :=
  match args.firstReserved? ["self", "label"] with
  | some name => .error (.url (.fill (.reserved "App.url_for" name)))
  | none =>
    match a.table.urlFor label args with
    | .error e => .error (.url e)
    | .ok path => .ok path

/-- The handlers that routes name and nobody has registered. -/
def missingHandlers (a : App α) : List String :=
  a.handlers.missing (a.table.entries.map Route.Entry.handlerId)

/-- The report of freezing. -/
def frozenRecord (a : App α) : LogRecord where
  severity := .debug
  logger := .server
  message :=
    "App frozen: " ++ toString a.table.entries.length ++ " route(s), " ++ toString a.handlers.size
      ++ " handler(s), " ++ toString a.middleware.length ++ " middleware"

/-- Freezes the application, unless it is frozen. Every route needs its handler. -/
def freeze (a : App α) (j : Journal) : Except Fault (App α) × Journal :=
  if a.frozen then (.ok a, j)
  else if a.missingHandlers.isEmpty then
    (.ok { a with table := a.table.freeze, frozen := true }, j.log a.frozenRecord)
  else (.error (.setup (.handlersMissing a.missingHandlers)), j)

/-- What serves the requests of the application. -/
def dispatcher (a : App α) : Dispatcher α where
  table := a.table
  handlers := a.handlers
  credentials := a.credentials
  rules := a.rules
  debug := a.config.debug

/-- The middleware around what serves requests. -/
def chain (ctx : Context) (last : Request → Act α Value) :
    List (Middleware α) → Request → Act α Value
  | [] => last
  | m :: ms => m ctx (chain ctx last ms)

/-- Serves a request through the middleware. -/
def respond (a : App α) (r : Request) : Act α Value :=
  let ctx : Context := { request := some r }
  let last : Request → Act α Value := fun r w =>
    match a.dispatcher.dispatch ctx r w with
    | (.error f, w) => (.error f, w)
    | (.ok resp, w) => (.ok (.response resp), w)
  chain ctx last a.middleware r

/-- Serves a request; what goes wrong is answered. -/
def handle (a : App α) (r : Request) : Act α Value := fun w =>
  match a.respond r w with
  | (.ok v, w) => (.ok v, w)
  | (.error f, w) =>
    match answer a.rules a.config.debug r f w with
    | (.error f, w) => (.error f, w)
    | (.ok resp, w) => (.ok (.response resp), w)

/-- The frames of what came out of the middleware, which has to be a response. -/
def framesOf (head : Bool) : Value → Except Fault (List Frame)
  | .response r =>
    match r.frames head with
    | .error (.encoding e) => .error (.encode e)
    | .error (.lacks e) => .error (.lacks e)
    | .ok fs => .ok fs
  | v => .error (.lacks ⟨v.fullKind, "content_type"⟩)

/-- The frames sent for the request of a scope. -/
def exchange (a : App α) (s : Scope) : Act α (List Frame) := fun w =>
  match Request.ofScope s [] with
  | .error e => (.error (.missing e.part), w)
  | .ok r =>
    match a.handle r w with
    | (.error f, w) => (.error f, w)
    | (.ok v, w) => (framesOf (r.method = "HEAD") v, w)

/-- Serves a scope whose body is in the world's inbox. The application is frozen first, and scopes
of another kind than a request are left alone. -/
def serve (a : App α) (s : Scope) (w : World α) : Except Fault (List Frame) × App α × World α :=
  match s.kind with
  | none => (.error (.missing "type"), a, w)
  | some kind =>
    match a.freeze w.journal with
    | (.error f, j) => (.error f, a, w.withJournal j)
    | (.ok a, j) =>
      let w := w.withJournal j
      if kind = "http" then
        let (result, w) := a.exchange s w
        (result, a, w)
      else (.ok [], a, w)

end App

end Waypost.Service
