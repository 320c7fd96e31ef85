import Waypost.Service.App

/-!
# An in-process client

Sends requests to an application without a network and reads the frames back into a response.
-/

namespace Waypost

open Codec Text

namespace Response

/-- Takes one header of the start frame into account. -/
def receiveHeader (r : Response) (h : Bytes × Bytes) : Except Number.IntegerError Response :=
  let name := decodeLatin1 h.1
  let value := decodeLatin1 h.2
  if name = "content-type" then .ok (r.withContentType value)
  else if name = "set-cookie" then
    match SetCookie.parse value with
    | .error e => .error e
    | .ok c => .ok (r.withCookie c)
  else if name = "content-length" then .ok r
  else .ok (r.withHeader name value)

/-- Takes the headers of the start frame into account. -/
def receiveHeaders (r : Response) : List (Bytes × Bytes) → Except Number.IntegerError Response
  | [] => .ok r
  | h :: hs =>
    match receiveHeader r h with
    | .error e => .error e
    | .ok r => receiveHeaders r hs

/-- The bytes of the body frames. -/
def receivedBody (fs : List Frame) : Bytes :=
  fs.flatMap fun f =>
    match f with
    | .start .. => []
    | .body bs => bs

/-- The status and headers of the start frame. -/
def receivedStart (fs : List Frame) : Status × List (Bytes × Bytes) :=
  fs.foldl (fun acc f =>
    match f with
    | .start status headers => (status, headers)
    | .body _ => acc) (200, [])

/-- The response in frames. -/
def ofFrames (fs : List Frame) : Except Number.IntegerError Response :=
  let (status, headers) := receivedStart fs
  receiveHeaders { body := .bytes (receivedBody fs), status } headers

end Response

namespace Service

/-- A request as the client is asked for it. -/
structure Call where
  method : String
  path : String
  headers : List (String × String) := []
  body : Bytes := []

namespace Call

/-- A call that posts a JSON document. Headers given by the caller win. -/
def postJson (path : String) (headers : List (String × String)) (doc : Json) : Call where
  method := "POST"
  path := path
  headers := headers.foldl (fun m h => Keyed.put h.1 h.2 m) [("content-type", "application/json")]
  body := encodeUtf8 (doc.render .wide)

/-- The scope of a call. What is not Latin-1 cannot be sent. -/
def scope (c : Call) : Except EncodeError Scope :=
  match Headers.ofPairs c.headers with
  | .error e => .error e
  | .ok headers =>
    let (path, query) := (cut? '?' c.path).getD (c.path, "")
    match encode .latin1 path with
    | .error e => .error e
    | .ok _ =>
      match encode .latin1 query with
      | .error e => .error e
      | .ok query =>
        .ok
          { kind := some "http", method := some (upper c.method), path := some path, headers, query
            server := some [.text "testserver", .int 80], client :=
              some [.text "127.0.0.1", .int 0] }

end Call

namespace App

variable {α : Type}

/-- Sends a call to the application. -/
def call (a : App α) (c : Call) (w : World α) : Except Fault Response × App α × World α :=
  match c.scope with
  | .error e => (.error (.encode e), a, w)
  | .ok scope =>
    match a.serve scope { w with inbox := { pending := [⟨c.body, false⟩] } } with
    | (.error f, a, w) => (.error f, a, w)
    | (.ok frames, a, w) =>
      match Response.ofFrames frames with
      | .error e => (.error (.integer e), a, w)
      | .ok r => (.ok r, a, w)

end App

end Service

end Waypost
