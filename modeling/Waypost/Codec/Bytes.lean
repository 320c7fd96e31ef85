import Waypost.Text.Quoted

/-!
# Bytes and single-byte character sets

In Latin-1 a character is the byte of the same number; ASCII is its lower half. Encoding fails on
the first run of characters outside the set.
-/

namespace Waypost

/-- A sequence of bytes. -/
abbrev Bytes := List UInt8

namespace Codec

open Text

/-- A character set with one byte for a character. -/
inductive Charset where
  | ascii
  | latin1
deriving DecidableEq, Repr

/-- The name a character set goes by in messages. -/
def Charset.name : Charset → String
  | .ascii => "ascii"
  | .latin1 => "latin-1"

/-- The number of characters in the set. -/
def Charset.size : Charset → Nat
  | .ascii => 128
  | .latin1 => 256

/-- Characters that a character set does not have: the first run of them in a text. -/
structure EncodeError where
  charset : Charset
  start : Nat
  run : List Char
deriving DecidableEq, Repr

/-- The wording of the error. -/
def EncodeError.message (e : EncodeError) : String :=
  let what :=
    match e.run with
    | [c] =>
      "character '" ++ String.ofList (escapeCode c.toNat) ++ "' in position " ++ toString e.start
    | _ =>
      "characters in position " ++ toString e.start ++ "-" ++ toString (e.start + e.run.length - 1)
  "'" ++ e.charset.name ++ "' codec can't encode " ++ what ++ ": ordinal not in range("
    ++ toString e.charset.size ++ ")"

/-- Encodes the characters from position `pos` on. -/
def encodeFrom (set : Charset) (pos : Nat) : List Char → Except EncodeError Bytes
  | [] => .ok []
  | c :: cs =>
    if c.toNat < set.size then
      match encodeFrom set (pos + 1) cs with
      | .ok bs => .ok (UInt8.ofNat c.toNat :: bs)
      | .error e => .error e
    else .error ⟨set, pos, c :: cs.takeWhile fun d => set.size ≤ d.toNat⟩

/-- The bytes of a text. -/
def encode (set : Charset) (s : String) : Except EncodeError Bytes :=
  encodeFrom set 0 s.toList

/-- The text whose characters are the given bytes. -/
def decodeLatin1 (bs : Bytes) : String :=
  String.ofList (bs.map fun b => Char.ofNat b.toNat)

end Codec

end Waypost
