import Waypost.Browser.Loader
import Waypost.Service.Client

/-!
# Loading views from an application in process

The request of a view loader is served by an application without a network.
-/

namespace Waypost

open Codec

/-- What a server says about the request of a view loader. -/
def Browser.Fetch.scope (f : Browser.Fetch) : Scope :=
  { kind := some "http"
    method := some f.method
    path := some f.url.plainPath
    headers := ⟨f.headers.raw.map fun h => (Headers.foldName h.1, h.2)⟩
    query := encodeUtf8 (f.url.query.getD "") }

namespace Service.App

variable {α : Type}

/-- The request for a view, with a host that the application can be told. -/
def fetch (l : Browser.Loader) (token : Option String) (path : String) :
    Except Fault Browser.Fetch := do
  let f ← l.fetch token path
  f.url.checkName.mapError Browser.Url.HostError.fault
  return f

/-- Loads the data of a view from an application; the answer comes at an instant. -/
def load (a : App α) (l : Browser.Loader) (token : Option String) (viewId path : String)
    (received : Time.Instant) (w : World α) :
    Except Fault Json × App α × World α :=
  match fetch l token path with
  | .error e => (.error e, a, w)
  | .ok f =>
    match a.serve f.scope { w with inbox := { pending := [⟨[], true⟩, ⟨[], false⟩] } } with
    | (.error e, a, w) => (.error e.relayed, a, w)
    | (.ok frames, a, w) =>
      let (status, headers) := Response.receivedStart frames
      (f.receive viewId (.reply
        { status, headers := ⟨headers⟩, body := Response.receivedBody frames, received }), a, w)

end Service.App

end Waypost
