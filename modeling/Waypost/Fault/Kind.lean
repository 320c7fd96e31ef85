/-!
# Kinds of failure

Every failure has a kind with a name; error rules are looked up by kind, and log records show the
name. `parent?` gives the more general kind, and `lineage` all of them.
-/

namespace Waypost.Fault

/-- The kinds of failure. -/
inductive Kind where
  | exception
  | base
  | configuration
  | registration
  | invalidPattern
  | ambiguousRoute
  | duplicateLabel
  | http
  | notFound
  | methodNotAllowed
  | unauthorized
  | forbidden
  | handler
  | navigation
  | historyWrite
  | viewData
  | value
  | key
  | lookup
  | runtime
  | type
  | attribute
  | arithmetic
  | overflow
  | unicode
  | unicodeDecode
  | unicodeEncode
  | jsonDecode
  | badPayload
  | invalidUrl
  | recursion
  | hostName
  | hostNameLetter
  | hostNameSign
  | hostNameDirection
deriving DecidableEq, Repr

namespace Kind

/-- All kinds. -/
def all : List Kind :=
  [.exception, .base, .configuration, .registration, .invalidPattern, .ambiguousRoute,
   .duplicateLabel, .http, .notFound, .methodNotAllowed, .unauthorized, .forbidden, .handler,
   .navigation, .historyWrite, .viewData, .value, .key, .lookup, .runtime,
   .type, .attribute, .arithmetic, .overflow, .unicode, .unicodeDecode, .unicodeEncode, .jsonDecode,
   .badPayload, .invalidUrl, .recursion, .hostName, .hostNameLetter, .hostNameSign,
   .hostNameDirection]

/-- The name of a kind. -/
def name : Kind → String
  | .exception => "Exception"
  | .base => "FlareError"
  | .configuration => "ConfigurationError"
  | .registration => "RegistrationError"
  | .invalidPattern => "InvalidPattern"
  | .ambiguousRoute => "AmbiguousRoute"
  | .duplicateLabel => "DuplicateLabel"
  | .http => "HTTPError"
  | .notFound => "NotFound"
  | .methodNotAllowed => "MethodNotAllowed"
  | .unauthorized => "Unauthorized"
  | .forbidden => "Forbidden"
  | .handler => "HandlerError"
  | .navigation => "NavigationError"
  | .historyWrite => "HistoryWriteError"
  | .viewData => "ViewDataError"
  | .value => "ValueError"
  | .key => "KeyError"
  | .lookup => "LookupError"
  | .runtime => "RuntimeError"
  | .type => "TypeError"
  | .attribute => "AttributeError"
  | .arithmetic => "ArithmeticError"
  | .overflow => "OverflowError"
  | .unicode => "UnicodeError"
  | .unicodeDecode => "UnicodeDecodeError"
  | .unicodeEncode => "UnicodeEncodeError"
  | .jsonDecode => "JSONDecodeError"
  | .badPayload => "BadPayload"
  | .invalidUrl => "InvalidURL"
  | .recursion => "RecursionError"
  | .hostName => "IDNAError"
  | .hostNameLetter => "InvalidCodepoint"
  | .hostNameSign => "InvalidCodepointContext"
  | .hostNameDirection => "IDNABidiError"

/-- The kind with a given name. -/
def ofName? (s : String) : Option Kind :=
  all.find? fun k => k.name == s

/-- The next more general kind. -/
def parent? : Kind → Option Kind
  | .exception => none
  | .configuration => some .base
  | .registration => some .configuration
  | .invalidPattern => some .registration
  | .ambiguousRoute => some .registration
  | .duplicateLabel => some .registration
  | .http => some .base
  | .notFound => some .http
  | .methodNotAllowed => some .http
  | .unauthorized => some .http
  | .forbidden => some .http
  | .handler => some .base
  | .navigation => some .base
  | .historyWrite => some .navigation
  | .viewData => some .navigation
  | .key => some .lookup
  | .overflow => some .arithmetic
  | .unicode => some .value
  | .unicodeDecode => some .unicode
  | .unicodeEncode => some .unicode
  | .jsonDecode => some .value
  | .recursion => some .runtime
  | .hostName => some .unicode
  | .hostNameLetter => some .hostName
  | .hostNameSign => some .hostName
  | .hostNameDirection => some .hostName
  | _ => some .exception

/-- A kind and the kinds above it, at most `n`. -/
def climb : Nat → Kind → List Kind
  | 0, _ => []
  | n + 1, k =>
    match k.parent? with
    | none => [k]
    | some p => k :: climb n p

/-- A kind and all kinds above it, the most general last. -/
def lineage (k : Kind) : List Kind :=
  climb 8 k

end Kind

end Waypost.Fault
