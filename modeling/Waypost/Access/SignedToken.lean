import Waypost.Codec.Base64
import Waypost.Codec.Packed
import Waypost.Codec.Utf8
import Waypost.Digest.Sha1
import Waypost.Json.Printer
import Waypost.Json.Reader
import Waypost.Text.Pieces

/-!
# Signed tokens

A signed value is a payload, a point and a signature. The payload is the JSON text of the token in
base64, compressed first where that makes it shorter, and the signature is a keyed hash of the
payload. Values with a bad signature are no tokens; a payload that cannot be read under a good
signature is an error.

Which of the many compressed forms of a text is written is left to the signer's compressor. Reading
takes every form, so it does not depend on the compressor.
-/

namespace Waypost.Access

open Codec Text

/-- Signs tokens with a key derived from a secret. -/
structure Signer where
  key : Bytes
  /-- What compresses the text of a payload; one that gives its text back is never used. -/
  compress : Bytes → Bytes := id

/-- A secret that is empty. -/
structure EmptySecret where
deriving DecidableEq, Repr

/-- The wording of the error. -/
def EmptySecret.message (_ : EmptySecret) : String :=
  "TokenSigner requires a non-empty secret_key."

/-- Why the payload under a good signature cannot be read. -/
inductive PayloadError where
  | base64
  | compression
  | content
deriving DecidableEq, Repr

/-- The wording of the error. -/
def PayloadError.message : PayloadError → String
  | .base64 => "Could not base64 decode the payload because of an exception"
  | .compression => "Could not zlib decompress the payload before decoding the payload"
  | .content =>
    "Could not load the payload because an exception occurred on unserializing the data."

/-- What keeps the keys of different uses apart. -/
def tokenSalt : String := "flare.session-token"

namespace Signer

/-- The signer of a secret. -/
def ofSecret (secret : String) (compress : Bytes → Bytes := id) : Except EmptySecret Signer :=
  if secret.isEmpty then .error {}
  else .ok {
    key := Digest.Sha1.hash (encodeUtf8 tokenSalt ++ encodeUtf8 "signer" ++ encodeUtf8 secret)
    compress }

/-- The bytes of a token's text in JSON. -/
def plainText (token : String) : Bytes :=
  encodeUtf8 ((Json.text token).render .compact)

/-- Compression makes a token's text shorter by more than the point that marks it. -/
def Shortens (s : Signer) (token : String) : Prop :=
  (s.compress (plainText token)).length + 1 < (plainText token).length

instance (s : Signer) (token : String) : Decidable (s.Shortens token) :=
  inferInstanceAs (Decidable (_ < _))

/-- The payload of a token. A leading point marks one whose text is compressed. -/
def payload (s : Signer) (token : String) : Bytes :=
  if s.Shortens token then 46 :: Base64.encode .urlSafe (s.compress (plainText token))
  else Base64.encode .urlSafe (plainText token)

/-- The signature of a payload. -/
def signature (s : Signer) (payload : Bytes) : Bytes :=
  Digest.Sha1.hmac s.key payload

/-- The signed value of a token. -/
def sign (s : Signer) (token : String) : String :=
  let p := s.payload token
  decodeLatin1 p ++ "." ++ decodeLatin1 (Base64.encode .urlSafe (s.signature p))

/-- The payload of a value whose signature is good. -/
def verified? (s : Signer) (value : String) : Option Bytes :=
  match cutLast? '.' value with
  | none => none
  | some (p, sig) =>
    let p := encodeUtf8 p
    match Base64.decodeLenient .urlSafe (encodeUtf8 sig) with
    | none => none
    | some given => if given = s.signature p then some p else none

/-- The plain bytes of a payload, which a leading point marks as compressed. -/
def unpack (p : Bytes) : Except PayloadError Bytes :=
  let (compressed, body) :=
    match p with
    | 46 :: rest => (true, rest)
    | _ => (false, p)
  match Base64.decodeLenient .urlSafe body with
  | none => .error .base64
  | some bs =>
    if compressed then
      match Packed.unpack .zlib bs with
      | .error _ => .error .compression
      | .ok u => if u.complete then .ok u.plain else .error .compression
    else .ok bs

/-- The token in a payload, if it holds a text. -/
def readPayload (p : Bytes) : Except PayloadError (Option String) :=
  match unpack p with
  | .error e => .error e
  | .ok bs =>
    match decodeUtf8 bs with
    | .error _ => .error .content
    | .ok s =>
      match Json.read s with
      | .error _ => .error .content
      | .ok v => .ok v.asText?

/-- The token of a signed value, or nothing if its signature is bad. -/
def unsign (s : Signer) (value : String) : Except PayloadError (Option String) :=
  match s.verified? value with
  | none => .ok none
  | some p => readPayload p

end Signer

end Waypost.Access
