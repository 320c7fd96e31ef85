import Waypost.Access.Store
import Waypost.Fault.Basic
import Waypost.Journal.Book

/-!
# Credentials of a request

A request presents its session in a header or in a cookie; a header that is there and not empty
wins. With a signer the presented value is a signed token, and one whose signature is bad is
reported and counts for nothing.
-/

namespace Waypost.Access

/-- Where a request carries its session. -/
structure Credentials where
  tokenHeader : String := "X-Flare-Token"
  cookieName : String := "SESSION_ID"
  signer : Option Signer := none
  /-- Whether the cookie is for secure connections only. -/
  secure : Bool := false
deriving Inhabited

/-- A text that is not empty. -/
def nonEmpty? (s : Option String) : Option String :=
  s.filter fun t => !t.isEmpty

namespace Credentials

/-- The value that a request presents. -/
def presented (c : Credentials) (r : Request) : Except Codec.EncodeError (Option String) :=
  match r.headers.get? c.tokenHeader with
  | .error e => .error e
  | .ok value =>
    .ok ((nonEmpty? value).orElse fun _ => nonEmpty? (Keyed.get? c.cookieName r.cookies))

/-- The report of a bad signature. -/
def badSignature (r : Request) : LogRecord where
  severity := .warning
  logger := .auth
  message := "Rejected session token with invalid signature on " ++ r.method ++ " " ++ r.path

/-- The event of a bad signature. -/
def badSignatureEvent (r : Request) : SecurityEvent where
  name := "auth.token.invalid_signature"
  method := .text r.method
  path := .text r.path

/-- The token in a presented value. -/
def token (c : Credentials) (r : Request) (value : String) (j : Journal) :
    Except Fault (Option String) × Journal :=
  match c.signer with
  | none => (.ok (some value), j)
  | some signer =>
    match signer.unsign value with
    | .error e => (.error (.payload e), j)
    | .ok (some token) => (.ok (some token), j)
    | .ok none => (.ok none, (j.log (badSignature r)).emit (badSignatureEvent r))

/-- The session that a request presents. One that has ended is returned too; the guard decides what
it is worth. -/
def resolve (c : Credentials) (s : Store) (r : Request) (j : Journal) :
    Except Fault (Option Session) × Journal :=
  match c.presented r with
  | .error e => (.error (.encode e), j)
  | .ok none => (.ok none, j)
  | .ok (some value) =>
    match c.token r value j with
    | (.error e, j) => (.error e, j)
    | (.ok token, j) => (.ok (token.bind s.get?), j)

/-- The value that a client sends back for a session. -/
def wireToken (c : Credentials) (s : Session) : String :=
  match c.signer with
  | none => s.token
  | some signer => signer.sign s.token

/-- The cookie that hands a session to a browser, for seven days. -/
def sessionCookie (c : Credentials) (s : Session) : SetCookie :=
  { name := c.cookieName
    value := c.wireToken s
    maxAge := some Time.weekSeconds
    secure := c.secure }

/-- The cookie that makes a browser forget the session. -/
def clearCookie (c : Credentials) : SetCookie :=
  { name := c.cookieName, value := "", maxAge := some 0, secure := c.secure }

end Credentials

end Waypost.Access
