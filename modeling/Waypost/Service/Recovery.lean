import Waypost.Service.World

/-!
# Responses to faults

A fault with a status of its own becomes a response with that status, its detail and its headers;
every other fault becomes a response that says nothing about it. An application may register
handlers by the kind of fault or by status, and the kind is looked up first.
-/

namespace Waypost.Service

/-- Application code that answers a fault; it asks for nothing, for the request, or for the request
and the fault. -/
inductive ErrorHandler (α : Type) where
  | plain (run : Act α Value)
  | ofRequest (run : Request → Act α Value)
  | ofFault (run : Request → Fault → Act α Value)

/-- What an error handler is registered for. -/
inductive ErrorKey where
  | kind (k : Fault.Kind)
  | status (n : Int)
deriving DecidableEq, Repr

/-- Error handlers by what they are registered for. -/
abbrev ErrorRules (α : Type) := List (ErrorKey × ErrorHandler α)

/-- The body of a response to a fault without a status of its own. -/
def internalErrorBody : String := "Internal Server Error"

variable {α : Type}

/-- Runs an error handler and turns its value into a response. -/
def ErrorHandler.call (h : ErrorHandler α) (r : Request) (f : Fault) : Act α Response := fun w =>
  let run : Act α Value :=
    match h with
    | .plain run => run
    | .ofRequest run => run r
    | .ofFault run => run r f
  match run w with
  | (.error e, w) => (.error e, w)
  | (.ok v, w) =>
    match v.toResponse with
    | .error e => (.error (.reply e), w)
    | .ok resp => (.ok resp, w)

/-- The handler for a fault: by its kind, then by status. -/
def ErrorRules.find? (rules : ErrorRules α) (kind : Fault.Kind) (status : Int) :
    Option (ErrorHandler α) :=
  (Keyed.get? (.kind kind) rules).orElse fun _ => Keyed.get? (.status status) rules

/-- The response with the headers of a fault that it does not have yet. A header that holds nothing
counts as one it does not have. -/
def mergeHeaders (r : Response) : List (Field × Field) → Except Lacks Response
  | [] => .ok r
  | (name, value) :: rest =>
    match r.header? name with
    | .error e => .error e
    | .ok own => mergeHeaders (if own.all Field.isNone then r.withHeader name value else r) rest

/-- The response under the fault's status, unless the handler has chosen its own. -/
def keepStatus (status : Status) (r : Response) : Response :=
  if r.status.value = 200 then r.withStatus status else r

/-- The text of a response to a fault that no handler answers. -/
def detailText (debug : Bool) (e : HttpError) : String :=
  if e.detail.isEmpty then "Error " ++ e.status.shown
  else if debug then e.status.shown ++ ": " ++ e.detail
  else e.detail

/-- The response to a fault, before its headers are merged in. -/
def baseResponse (rules : ErrorRules α) (debug : Bool) (r : Request) (e : HttpError) :
    Act α Response := fun w =>
  match rules.find? e.kind e.status.value with
  | none => (.ok (.ofText (detailText debug e) e.status), w)
  | some h =>
    match h.call r (.http e) w with
    | (.error f, w) => (.error f, w)
    | (.ok resp, w) => (.ok (keepStatus e.status resp), w)

/-- The report of a fault with a status of its own. -/
def httpRecord (r : Request) (e : HttpError) : LogRecord where
  severity := .debug
  logger := .server
  message := toString e.status.value ++ " " ++ r.method ++ " " ++ r.path ++ ": " ++ e.detail

/-- Answers a fault with a status of its own. -/
def answerHttp (rules : ErrorRules α) (debug : Bool) (r : Request) (e : HttpError) :
    Act α Response := fun w =>
  match baseResponse rules debug r e (w.log (httpRecord r e)) with
  | (.error f, w) => (.error f, w)
  | (.ok resp, w) =>
    match mergeHeaders resp e.headers with
    | .error l => (.error (.lacks l), w)
    | .ok resp => (.ok resp, w)

/-- The report of any other fault. -/
def internalRecord (r : Request) (f : Fault) : LogRecord where
  severity := .error
  logger := .server
  message := "500 " ++ r.method ++ " " ++ r.path
  fault := some f.kind

/-- Answers any other fault. -/
def answerInternal (rules : ErrorRules α) (r : Request) (f : Fault) : Act α Response := fun w =>
  let w := w.log (internalRecord r f)
  match rules.find? f.kind 500 with
  | none => (.ok (.ofText internalErrorBody 500), w)
  | some h =>
    match h.call r f w with
    | (.error f, w) => (.error f, w)
    | (.ok resp, w) => (.ok (keepStatus 500 resp), w)

/-- Answers a fault. -/
def answer (rules : ErrorRules α) (debug : Bool) (r : Request) (f : Fault) : Act α Response :=
  match f with
  | .http e => answerHttp rules debug r e
  | f => answerInternal rules r f

end Waypost.Service
