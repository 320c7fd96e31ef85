import Waypost.Access.Password
import Waypost.Access.SignedToken
import Waypost.Browser.Redirect
import Waypost.Fault.Kind
import Waypost.Message.Headers
import Waypost.Message.Request
import Waypost.Reply.Frame
import Waypost.Reply.Negotiate
import Waypost.Route.Table
import Waypost.Time.MailDate

/-!
# Faults

Everything that can go wrong, by cause. `Fault.kind` says which kind of failure a fault is and
`Fault.message` words it.
-/

namespace Waypost

open Text

/-- A failure that stands for a response with a status of its own. -/
structure HttpError where
  kind : Fault.Kind := .http
  status : Status
  detail : String := ""
  headers : List (Field × Field) := []
deriving Inhabited

namespace HttpError

/-- The status and, if there is one, the detail. -/
def message (e : HttpError) : String :=
  if e.detail.isEmpty then e.status.shown else e.status.shown ++ ": " ++ e.detail

/-- No route serves the path. -/
def notFound (detail : String := "Not Found") : HttpError :=
  { kind := .notFound, status := 404, detail }

/-- A credential is needed. -/
def unauthorized (detail : String := "Authentication required") : HttpError :=
  { kind := .unauthorized, status := 401, detail }

/-- A credential of a higher level is needed. -/
def forbidden (detail : String := "Forbidden") : HttpError :=
  { kind := .forbidden, status := 403, detail }

/-- The path is served for other methods. -/
def methodNotAllowed (allowed : List String) (detail : String := "") : HttpError :=
  let allow := ", ".intercalate (Route.sortedSet allowed)
  { kind := .methodNotAllowed, status := 405
    detail := if detail.isEmpty then "Method not allowed. Allowed methods: " ++ allow else detail
    headers := [(.text "Allow", .text allow)] }

end HttpError

/-- What is wrong with how an application is put together. -/
inductive SetupError where
  | handlerTaken (id : String)
  | handlersMissing (ids : List String)
  | alreadyServing
  | unknownThreshold (name : String)
deriving DecidableEq, Repr

/-- The wording of the error. -/
def SetupError.message : SetupError → String
  | .handlerTaken id => "Handler id " ++ quote id ++ " is already registered."
  | .handlersMissing ids => "Routes refer to unregistered handler ids: " ++ ", ".intercalate ids
  | .alreadyServing =>
    "Cannot modify the app after it has started serving requests. "
      ++ "Register routes, handlers, and middleware before the first request."
  | .unknownThreshold name => "Unknown level: " ++ quote name

/-- Why a visit in the browser fails. -/
inductive NavigationError where
  | noView (path : String)
  /-- The browser has left the entry that was to be corrected. -/
  | leftEntry (stamped now : Int)
  | cannotPush (path : String)
  | cannotReplace (path : String)
  | badStatus (method url : String) (status : Status)
  | notJson (method url : String)
  | unreachable (view reason : String)
deriving DecidableEq, Repr

/-- The wording of the error. -/
def NavigationError.message : NavigationError → String
  | .noView path => "No view matches " ++ quote path
  | .leftEntry stamped now =>
    "Browser left entry " ++ toString stamped ++ " (now at " ++ toString now ++
      "); not correcting the URL"
  | .cannotPush path => "cannot push " ++ path
  | .cannotReplace path => "cannot replace with " ++ path
  | .badStatus method url status => method ++ " " ++ url ++ " returned " ++ status.shown
  | .notJson method url => method ++ " " ++ url ++ " did not return JSON"
  | .unreachable view reason => "Loading data for view " ++ quote view ++ " failed: " ++ reason

/-- The kind of failure. -/
def NavigationError.kind : NavigationError → Fault.Kind
  | .noView _ => .navigation
  | .leftEntry .. | .cannotPush _ | .cannotReplace _ => .historyWrite
  | .badStatus .. | .notJson .. | .unreachable .. => .viewData

/-- A fault by its cause. -/
inductive Fault where
  | http (error : HttpError)
  | register (error : Route.RegisterError)
  | url (error : Route.UrlError)
  | setup (error : SetupError)
  | navigation (error : NavigationError)
  | address (error : Browser.UrlError)
  | host (error : Browser.LabelError)
  | authority (error : Browser.AuthorityError)
  /-- An URL, as it is written, that does not say what kind of URL it is. -/
  | untypedUrl (text : String)
  | encode (error : Codec.EncodeError)
  | decode (error : Codec.DecodeError)
  | document (error : Json.DocumentError)
  | integer (error : Number.IntegerError)
  | level (error : Access.Level.Unknown)
  | number (error : Number.Binary64.NotNumber)
  | range (error : Time.RangeError)
  | zone (error : Time.ZoneError)
  | date (error : Time.DateError)
  /-- A date whose zone is unknown has no place on the time line. -/
  | floatingDate
  | payload (error : Access.PayloadError)
  | emptySecret (error : Access.EmptySecret)
  | emptyPassword (error : Access.Password.Empty)
  | reply (error : ReplyError)
  | unhashable (error : Value.Unhashable)
  | lacks (error : Lacks)
  | missing (key : String)
  | noHandler (id : String)
  | noRequest
  /-- What an application's own code reports. -/
  | raised (kind : Fault.Kind) (arguments : List Value)
deriving Inhabited

namespace Fault

/-- The wording of what an application's own code reports. A missing key is quoted. -/
def raisedMessage (kind : Kind) : List Value → String
  | [] => ""
  | [v] => if kind = .key then v.shown else v.toText
  | vs => (Value.tuple vs).shown

/-- The wording of a fault. -/
def message : Fault → String
  | .http e => e.message
  | .register e => e.message
  | .url (.unknownLabel label) => quote ("No route labelled " ++ quote label)
  | .url (.fill e) => e.message
  | .setup e => e.message
  | .navigation e => e.message
  | .address e => e.message
  | .host e => e.message
  | .authority e => e.message
  | .untypedUrl text => "unknown url type: " ++ quote text
  | .encode e => e.message
  | .decode e => e.message
  | .document e => e.message
  | .integer e => e.message
  | .level e => e.message
  | .number e => e.message
  | .range e => e.message
  | .zone e => e.message
  | .date e => e.message
  | .floatingDate => "can't compare offset-naive and offset-aware datetimes"
  | .payload e => e.message
  | .emptySecret e => e.message
  | .emptyPassword e => e.message
  | .reply e => e.message
  | .unhashable e => e.message
  | .lacks e => e.message
  | .missing key => quote key
  | .noHandler id => "No handler registered for " ++ quote id
  | .noRequest => ""
  | .raised kind args => raisedMessage kind args

/-- The kind of a fault. -/
def kind : Fault → Kind
  | .http e => e.kind
  | .register .frozen => .runtime
  | .register (.invalid ..) => .invalidPattern
  | .register (.duplicateLabel _) => .duplicateLabel
  | .register (.ambiguous ..) => .ambiguousRoute
  | .url (.unknownLabel _) => .key
  | .url (.fill (.reserved ..)) => .type
  | .url (.fill _) => .value
  | .setup .alreadyServing => .runtime
  | .setup (.unknownThreshold _) => .value
  | .setup _ => .configuration
  | .navigation e => e.kind
  | .address _ => .invalidUrl
  | .host (.letter ..) => .hostNameLetter
  | .host (.joiner ..) | .host (.sign ..) => .hostNameSign
  | .host (.direction ..) => .hostNameDirection
  | .host _ => .hostName
  | .authority _ => .value
  | .untypedUrl _ => .value
  | .encode _ => .unicodeEncode
  | .decode _ => .unicodeDecode
  | .document (.encoding _) => .unicodeDecode
  | .document (.content (.syntactic ..)) => .jsonDecode
  | .document (.content (.tooDeep _)) => .recursion
  | .document (.content _) => .value
  | .integer _ => .value
  | .level _ => .value
  | .number _ => .value
  | .range _ => .overflow
  | .zone (.range _) => .overflow
  | .zone (.offset _) => .value
  | .date (.range _) => .overflow
  | .date (.tooWide _) => .overflow
  | .date _ => .value
  | .floatingDate => .type
  | .payload _ => .badPayload
  | .emptySecret _ => .configuration
  | .emptyPassword _ => .value
  | .reply _ => .type
  | .unhashable _ => .type
  | .lacks _ => .attribute
  | .missing _ => .key
  | .noHandler _ => .lookup
  | .noRequest => .lookup
  | .raised kind _ => kind

/-- The failure with a status of its own that a fault is. -/
def http? : Fault → Option HttpError
  | .http e => some e
  | _ => none

/-- The fault as it comes out of a request that an application served. A failure with a status of
its own cannot be marked with where it went, and that is a fault too. -/
def relayed : Fault → Fault
  | .http _ => .raised .type [.text "super(type, obj): obj must be an instance or subtype of type"]
  | f => f

end Fault

end Waypost
