import Waypost.Codec.Utf8
import Waypost.Json.Reader
import Waypost.Message.Cookie
import Waypost.Message.Status

/-!
# Responses

A response is built by functions that each return a changed copy. The names and values of its
headers are texts; since handlers may put anything there, a part of another kind is kept as it is
and found out when it is used.
-/

namespace Waypost

open Codec Text

/-- A text or bytes. -/
inductive Payload where
  | text (s : String)
  | bytes (bs : Bytes)
deriving DecidableEq, Repr, Inhabited

/-- Something else where a text belongs. -/
structure Foreign where
  /-- The name of its kind. -/
  kind : String
  /-- How messages show it. -/
  shown : String
  /-- How it is written out. -/
  json : Json
deriving Inhabited

/-- A name or value of a header. -/
inductive Field where
  | text (s : String)
  | bytes (bs : Bytes)
  | foreign (x : Foreign)
deriving Inhabited

instance : Coe String Field := ⟨Field.text⟩

/-- An operation that things of a kind do not have. -/
structure Lacks where
  kind : String
  operation : String
deriving DecidableEq, Repr

/-- The wording of the error. -/
def Lacks.message (e : Lacks) : String :=
  "'" ++ e.kind ++ "' object has no attribute '" ++ e.operation ++ "'"

namespace Field

/-- A name in small letters. -/
def lowered : Field → Except Lacks Payload
  | .text s => .ok (.text (lower s))
  | .bytes bs => .ok (.bytes (bs.map lowerByte))
  | .foreign x => .error ⟨x.kind, "lower"⟩

/-- A name or value as messages show it. -/
def shown : Field → String
  | .text s => quote s
  | .bytes bs => quoteBytes bs
  | .foreign x => x.shown

/-- Whether a field holds nothing. -/
def isNone : Field → Bool
  | .foreign x => x.kind = "NoneType"
  | _ => false

/-- The kind of a thing that keeps what holds it from being a key. -/
def unhashable? : Field → Option String
  | .foreign x => if x.kind = "list" || x.kind = "dict" then some x.kind else none
  | _ => none

end Field

/-- A response. -/
structure Response where
  body : Payload := .text ""
  status : Status := 200
  contentType : String := "text/plain; charset=utf-8"
  headers : List (Field × Field) := []
  cookies : List SetCookie := []
deriving Inhabited

namespace Response

/-- A response with a text. -/
def ofText (s : String) (status : Status := 200) : Response :=
  { body := .text s, status }

/-- The same response under another status. -/
def withStatus (r : Response) (status : Status) : Response :=
  { r with status }

/-- The response with one more header. -/
def withHeader (r : Response) (name value : Field) : Response :=
  { r with headers := r.headers ++ [(name, value)] }

/-- The response with more headers. -/
def withHeaders (r : Response) (hs : List (Field × Field)) : Response :=
  { r with headers := r.headers ++ hs }

/-- The response with content of another type. -/
def withContentType (r : Response) (contentType : String) : Response :=
  { r with contentType }

/-- The response that sets one more cookie. -/
def withCookie (r : Response) (c : SetCookie) : Response :=
  { r with cookies := r.cookies ++ [c] }

/-- The response that makes the browser drop a cookie. -/
def withoutCookie (r : Response) (name path : String) : Response :=
  r.withCookie { name, value := "", maxAge := some 0, path }

/-- The first value of a header whose name in small letters is given. -/
def findHeader (wanted : Payload) : List (Field × Field) → Except Lacks (Option Field)
  | [] => .ok none
  | (name, value) :: rest =>
    match name.lowered with
    | .error e => .error e
    | .ok key => if key = wanted then .ok (some value) else findHeader wanted rest

/-- The first value of a header, whatever the case of its name. -/
def header? (r : Response) (name : Field) : Except Lacks (Option Field) :=
  match name.lowered with
  | .error e => .error e
  | .ok wanted => findHeader wanted r.headers

/-- The content as bytes. -/
def bodyBytes (r : Response) : Bytes :=
  match r.body with
  | .text s => encodeUtf8 s
  | .bytes bs => bs

/-- The content as a text. -/
def text (r : Response) : Except DecodeError String :=
  match r.body with
  | .text s => .ok s
  | .bytes bs => decodeUtf8 bs

/-- The content as a JSON document. -/
def json (r : Response) : Except Json.DocumentError Json :=
  Json.readBytes r.bodyBytes

end Response

end Waypost
