import Waypost.Message.Response

/-!
# Responses on the wire

A response is sent as two frames: one with the status and the headers, one with the body. Statuses
that allow no body get an empty one, and the answer to a `HEAD` request keeps the length but not the
body.
-/

namespace Waypost

open Codec Text

/-- What goes over the wire. -/
inductive Frame where
  | start (status : Status) (headers : List (Bytes × Bytes))
  | body (bytes : Bytes)
deriving DecidableEq, Repr

/-- Why a response cannot be sent. -/
inductive SendError where
  | encoding (error : EncodeError)
  | lacks (error : Lacks)
deriving DecidableEq, Repr

/-- Whether a status allows a body. -/
def allowsBody (status : Int) : Bool :=
  !((100 ≤ status && status < 200) || status = 204 || status = 304)

/-- The bytes of a text in a header. -/
def sendText (s : String) : Except SendError Bytes :=
  match encode .latin1 s with
  | .error e => .error (.encoding e)
  | .ok bs => .ok bs

/-- The bytes of a header's value. -/
def Field.send : Field → Except SendError Bytes
  | .text s => sendText s
  | .bytes _ => .error (.lacks ⟨"bytes", "encode"⟩)
  | .foreign x => .error (.lacks ⟨x.kind, "encode"⟩)

/-- The bytes of a header's name, in small letters. -/
def Field.sendName (f : Field) : Except SendError Bytes :=
  match f.lowered with
  | .error e => .error (.lacks e)
  | .ok (.text s) => sendText s
  | .ok (.bytes _) => .error (.lacks ⟨"bytes", "encode"⟩)

/-- The bytes of headers in order. -/
def sendFields : List (Field × Field) → Except SendError (List (Bytes × Bytes))
  | [] => .ok []
  | (name, value) :: rest =>
    match name.sendName with
    | .error e => .error e
    | .ok n =>
      match value.send with
      | .error e => .error e
      | .ok v =>
        match sendFields rest with
        | .error e => .error e
        | .ok hs => .ok ((n, v) :: hs)

/-- The bytes of the headers that set cookies. -/
def sendCookies : List SetCookie → Except SendError (List (Bytes × Bytes))
  | [] => .ok []
  | c :: cs =>
    match sendText c.headerText with
    | .error e => .error e
    | .ok v =>
      match sendCookies cs with
      | .error e => .error e
      | .ok hs => .ok ((encodeUtf8 "set-cookie", v) :: hs)

namespace Response

/-- The body that is sent. -/
def sentBody (r : Response) : Bytes :=
  if allowsBody r.status.value then r.bodyBytes else []

/-- The headers that are sent: the type, the response's own, its cookies and the length of the
body. -/
def sentHeaders (r : Response) : Except SendError (List (Bytes × Bytes)) :=
  match sendText r.contentType with
  | .error e => .error e
  | .ok contentType =>
    match sendFields r.headers with
    | .error e => .error e
    | .ok own =>
      match sendCookies r.cookies with
      | .error e => .error e
      | .ok cookies =>
        .ok ([(encodeUtf8 "content-type", contentType)] ++ own ++ cookies
          ++ [(encodeUtf8 "content-length", encodeUtf8 (toString r.sentBody.length))])

/-- The frames of a response; `head` says that the request wants no body. -/
def frames (r : Response) (head : Bool) : Except SendError (List Frame) :=
  match r.sentHeaders with
  | .error e => .error e
  | .ok hs => .ok [.start r.status hs, .body (if head then [] else r.sentBody)]

end Response

end Waypost
