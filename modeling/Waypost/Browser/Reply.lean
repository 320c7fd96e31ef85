import Waypost.Codec.Packed
import Waypost.Codec.Utf8
import Waypost.Message.Headers
import Waypost.Message.Status
import Waypost.Text.Blank
import Waypost.Text.Pieces
import Waypost.Time.Instant

/-!
# What a server replies

A reply has a status, headers and a body. The headers can send the browser elsewhere (`location?`)
and say how the body is packed (`plainBody`).
-/

namespace Waypost.Browser

open Codec Text

/-- What a server replies to a request. -/
structure ServerReply where
  status : Status := 200
  headers : Headers := {}
  body : Bytes := []
  /-- When it has come in. -/
  received : Time.Instant := 0
deriving DecidableEq, Repr, Inhabited

namespace ServerReply

/-- Bytes as text, if they are UTF-8. -/
def utf8? (bs : Bytes) : Option String :=
  (decodeUtf8 bs).toOption

/-- Whether all headers are UTF-8. -/
def isUtf8 (r : ServerReply) : Bool :=
  r.headers.raw.all fun h => (utf8? h.1).isSome && (utf8? h.2).isSome

/-- The values of a header, given by its name in small letters. They are UTF-8 if all headers are,
and Latin-1 otherwise. -/
def values (r : ServerReply) (name : String) : List String :=
  (r.headers.raw.filter fun h => Headers.foldName h.1 = encodeUtf8 name).map fun h =>
    if r.isUtf8 then (utf8? h.2).getD "" else decodeLatin1 h.2

/-- The statuses with which a server sends the browser elsewhere. -/
def redirectStatuses : List Int := [301, 302, 303, 307, 308]

/-- Where the server sends the browser, if it does. -/
def location? (r : ServerReply) : Option String :=
  if redirectStatuses.contains r.status.value then
    match r.values "location" with
    | [] => none
    | vs => some (", ".intercalate vs)
  else none

/-- How the body was packed, the last way last. Ways that are not known are left out. -/
def codings (r : ServerReply) : List String :=
  ((r.values "content-encoding").flatMap fun v => (split ',' v).map fun s => lower (strip s)).filter
    fun s => s = "gzip" || s = "deflate"

/-- Undoes one way of packing. What is missing at the end is not missed. -/
def unpackOnce (coding : String) (bs : Bytes) : Except Inflate.Damage Bytes :=
  let unpacked :=
    if coding = "gzip" then Packed.unpack .gzip bs
    else
      match Packed.unpack .zlib bs with
      | .ok u => .ok u
      | .error _ => Packed.unpack .bare bs
  match unpacked with
  | .error d => .error d
  | .ok u => .ok u.plain

/-- Undoes ways of packing, one after the other. -/
def unpackAll : List String → Bytes → Except Inflate.Damage Bytes
  | [], bs => .ok bs
  | c :: cs, bs =>
    match unpackOnce c bs with
    | .error d => .error d
    | .ok bs => unpackAll cs bs

/-- The body as it was before it was packed. -/
def plainBody (r : ServerReply) : Except Inflate.Damage Bytes :=
  if r.body.isEmpty then .ok [] else unpackAll r.codings.reverse r.body

end ServerReply

end Waypost.Browser
