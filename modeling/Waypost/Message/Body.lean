import Waypost.Codec.Utf8
import Waypost.Json.Reader

/-!
# Request bodies

A body arrives in chunks. Reading it as a whole takes the chunks that are left up to the last one
and keeps the result, so that every later reader sees the same bytes; streaming takes chunks and
keeps nothing.
-/

namespace Waypost

open Codec

/-- A piece of a body; `more` says that another one follows. -/
structure Chunk where
  bytes : Bytes := []
  more : Bool := false
deriving DecidableEq, Repr

/-- The body of a request that is being received. -/
structure Inbox where
  /-- Chunks that have not been taken. -/
  pending : List Chunk := []
  /-- The body, once it has been read as a whole. -/
  cached : Option Bytes := none
deriving DecidableEq, Repr, Inhabited

namespace Inbox

/-- Takes chunks up to the one that no other follows: the non-empty pieces and the chunks that are
left. -/
def take : List Chunk → List Bytes × List Chunk
  | [] => ([], [])
  | c :: cs =>
    let here := if c.bytes.isEmpty then [] else [c.bytes]
    if c.more then
      let (rest, left) := take cs
      (here ++ rest, left)
    else (here, cs)

/-- The pieces of the body. -/
def stream (b : Inbox) : List Bytes × Inbox :=
  let (pieces, left) := take b.pending
  (pieces, { b with pending := left })

/-- The body as a whole. -/
def read (b : Inbox) : Bytes × Inbox :=
  match b.cached with
  | some bs => (bs, b)
  | none =>
    let (pieces, b) := b.stream
    (pieces.flatten, { b with cached := some pieces.flatten })

/-- The body as a text. -/
def text (b : Inbox) : Except DecodeError String × Inbox :=
  let (bs, b) := b.read
  (decodeUtf8 bs, b)

/-- The body as a JSON document. -/
def json (b : Inbox) : Except Json.DocumentError Json × Inbox :=
  let (bs, b) := b.read
  (Json.readBytes bs, b)

end Inbox

end Waypost
