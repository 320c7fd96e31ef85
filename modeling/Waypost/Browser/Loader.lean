import Waypost.Browser.Credential
import Waypost.Browser.ReplyCookie
import Waypost.Codec.Base64
import Waypost.Json.Reader

/-!
# Loading the data of a view

A loader fetches a view's path from a server, with the session token in a header, and reads the
reply as JSON. `Loader.fetch` is the request it makes and `Fetch.receive` what it makes of the
answer. `Loader.load` puts the two together, given the server.
-/

namespace Waypost.Browser

open Codec Text

/-- What comes of a request: a reply, or the reason why there is none. A request whose URL is
refused on the way is no failure of the server. -/
inductive Answer where
  | reply (reply : ServerReply)
  | failure (reason : String)
  | refusal (reason : String)
deriving DecidableEq, Repr, Inhabited

/-- A request for the data of a view. -/
structure Fetch where
  method : String := "GET"
  url : Url
  headers : Headers := {}
  /-- The name of the header for the session token. -/
  tokenHeader : String := ""
deriving DecidableEq, Repr, Inhabited

/-- The fault that the host of a request is. -/
def Url.HostError.fault : Url.HostError → Fault
  | .label e => .host e
  | .charset e => .encode e

namespace Fetch

/-- A request with nothing but a method and an URL. -/
def create (method url : String) : Except Fault Fetch :=
  match Url.parse url with
  | .error e => .error (.address e)
  | .ok u =>
    match u.checkHost with
    | .error e => .error e.fault
    | .ok _ => .ok { method := upper method, url := u }

/-- What the header for the session token holds. -/
def token? (f : Fetch) : Except EncodeError (Option String) :=
  match encode .ascii (lower f.tokenHeader) with
  | .error e => .error e
  | .ok name => .ok (f.headers.valuesOf name).head?

/-- The document in a reply. A status other than 200 to 299 and a body that is not JSON are
failures. -/
def document (f : Fetch) (status : Status) (body : Bytes) : Except Fault Json :=
  if 200 ≤ status.value ∧ status.value ≤ 299 then
    match Json.readBytes body with
    | .ok doc => .ok doc
    | .error (.content (.tooDeep h)) => .error (.document (.content (.tooDeep h)))
    | .error _ => .error (.navigation (.notJson f.method f.url.text))
  else .error (.navigation (.badStatus f.method f.url.text status))

/-- Checks where a server sends the browser. The browser does not go there. -/
def checkRedirect (f : Fetch) (r : ServerReply) : Except Url.RedirectError Unit := do
  match r.location? with
  | none => return ()
  | some location =>
    let _ ← f.url.redirect (r.leavesCookies f.url) location

/-- The fault that a redirect of a view is. -/
def redirectFault (viewId : String) : Url.RedirectError → Fault
  | .unreadable e =>
    .navigation (.unreachable viewId ("Invalid URL in location header: " ++ e.message ++ "."))
  | .url e => .address e
  | .host e => e.fault
  | .authority e => .authority e
  | .untyped text => .untypedUrl text

/-- The data in an answer. The browser looks for cookies in a reply before it looks where it is
sent. -/
def receive (f : Fetch) (viewId : String) : Answer → Except Fault Json
  | .failure reason => .error (.navigation (.unreachable viewId reason))
  | .refusal reason => .error (.raised .invalidUrl [.text reason])
  | .reply r => do
    f.url.checkForCookies.mapError (redirectFault viewId)
    (f.checkRedirect r).mapError (redirectFault viewId)
    match r.plainBody with
    | .error d => throw (.navigation (.unreachable viewId d.message))
    | .ok body => f.document r.status body

end Fetch

/-- How views are loaded: from where, with which header for the token, and what stands before their
paths. -/
structure Loader where
  base : Url
  tokenHeader : String := "X-Flare-Token"
  root : String := ""
deriving DecidableEq, Repr, Inhabited

namespace Loader

/-- A loader for the server at a base URL; slashes at the end of `root` are dropped. -/
def create (base tokenHeader root : String) : Except UrlError Loader := do
  let url ← Url.parse base
  return {
    base := ← url.withSlash
    tokenHeader
    root := String.ofList (root.toList.reverse.dropWhile (· = '/')).reverse }

/-- The headers that a request has unless it brings its own. -/
def standardHeaders : List (String × String) :=
  [("Accept", "*/*"), ("Accept-Encoding", "gzip, deflate"), ("Connection", "keep-alive"),
    ("User-Agent", "python-httpx/0.28.1")]

/-- Sets a header, in the place of one of the same name. -/
def setHeader (name value : String) (hs : List (String × String)) : List (String × String) :=
  (hs.filter fun h => lower h.1 ≠ lower name) ++ [(name, value)]

/-- The value of the header that signs in with a name and a password. -/
def signInHeader (login : String × String) : String :=
  "Basic " ++ decodeLatin1 (Base64.encodePadded .standard (encodeUtf8 (login.1 ++ ":" ++ login.2)))

/-- The headers of a request, with those that the loader adds itself. -/
def headersFor (url : Url) (own : List (String × String)) : Except Url.HostError Headers := do
  let hs := own.foldl (fun hs h => setHeader h.1 h.2 hs) standardHeaders
  let hs ←
    if hs.any fun h => lower h.1 = "host" then pure hs
    else do
      url.checkHost
      pure (if url.host.isEmpty then hs else ("Host", url.place) :: hs)
  let hs := match url.login? with
    | none => hs
    | some login => setHeader "Authorization" (signInHeader login) hs
  return ⟨hs.map fun h => (encodeUtf8 h.1, encodeUtf8 h.2)⟩

/-- The header with the session token. A token is sent if it is not empty, and must be ASCII, as
must the name of its header. -/
def tokenHeaders (l : Loader) (token : Option String) :
    Except EncodeError (List (String × String)) :=
  match token.filter fun t => !t.isEmpty with
  | none => .ok []
  | some t =>
    match encode .ascii l.tokenHeader with
    | .error e => .error e
    | .ok _ =>
      match encode .ascii t with
      | .error e => .error e
      | .ok _ => .ok [(l.tokenHeader, t)]

/-- The request for a path. -/
def fetch (l : Loader) (token : Option String) (path : String) : Except Fault Fetch :=
  match l.base.join (l.root ++ path) with
  | .error e => .error (.address e)
  | .ok url =>
    match l.tokenHeaders token with
    | .error e => .error (.encode e)
    | .ok own =>
      match headersFor url own with
      | .error e => .error e.fault
      | .ok headers => .ok { url, headers, tokenHeader := l.tokenHeader }

/-- Loads a view from a server, and says which request has reached it. The server looks at the
header for the token, whose name must be ASCII. -/
def load (l : Loader) (server : Fetch → Answer) (token : Option String) (viewId path : String) :
    Except Fault Json × Option Fetch :=
  match l.fetch token path with
  | .error e => (.error e, none)
  | .ok f =>
    match f.token? with
    | .error e => (.error (.encode e), none)
    | .ok _ => (f.receive viewId (server f), some f)

end Loader

/-- A server that answers by path, and knows nothing of other paths. -/
def serverOf (rules : List (String × Answer)) (f : Fetch) : Answer :=
  (Keyed.get? f.url.plainPath rules).getD (.reply { status := 404 })

end Waypost.Browser
