import Waypost.Codec.Bytes

/-!
# UTF-8

Reading fails at the first ill-formed sequence; the error covers the bytes that could have started a
character. `replaceUtf8From` puts U+FFFD in the place of each such stretch, and `decodeUtf8Passing`
lets encoded surrogates through as U+FFFD.
-/

namespace Waypost.Codec

open Text

/-- A stretch of bytes that a codec cannot read. -/
structure DecodeError where
  codec : String
  bytes : Bytes
  start : Nat
  stop : Nat
  reason : String
deriving DecidableEq, Repr

/-- The wording of the error. A single byte is shown, a longer stretch is given by its first and
last position. -/
def DecodeError.message (e : DecodeError) : String :=
  let what :=
    if e.stop = e.start + 1 then
      "byte 0x" ++ String.ofList (hexDigits 2 (e.bytes.headD 0).toNat) ++ " in position " ++
        toString e.start
    else "bytes in position " ++ toString e.start ++ "-" ++ toString (e.stop - 1)
  "'" ++ e.codec ++ "' codec can't decode " ++ what ++ ": " ++ e.reason

/-- The bytes of a character. -/
def encodeUtf8Char (c : Char) : Bytes :=
  let n := c.toNat
  if n < 0x80 then [UInt8.ofNat n]
  else if n < 0x800 then [UInt8.ofNat (0xC0 + n / 64), UInt8.ofNat (0x80 + n % 64)]
  else if n < 0x10000 then
    [UInt8.ofNat (0xE0 + n / 4096), UInt8.ofNat (0x80 + n / 64 % 64), UInt8.ofNat (0x80 + n % 64)]
  else
    [UInt8.ofNat (0xF0 + n / 262144), UInt8.ofNat (0x80 + n / 4096 % 64),
      UInt8.ofNat (0x80 + n / 64 % 64), UInt8.ofNat (0x80 + n % 64)]

/-- The bytes of a text. -/
def encodeUtf8 (s : String) : Bytes :=
  s.toList.flatMap encodeUtf8Char

/-- What the bytes at some position are: a character that takes `more` bytes beyond the first, or an
ill-formed stretch of `length` bytes. -/
inductive Utf8Step where
  | char (c : Char) (more : Nat)
  | bad (length : Nat) (reason : String)
deriving DecidableEq, Repr

/-- Why bytes are ill-formed. -/
def invalidStart : String := "invalid start byte"

@[inherit_doc invalidStart]
def unexpectedEnd : String := "unexpected end of data"

@[inherit_doc invalidStart]
def invalidContinuation : String := "invalid continuation byte"

/-- Whether a byte continues a sequence. -/
def isContinuation (b : UInt8) : Bool :=
  0x80 ≤ b && b ≤ 0xBF

/-- Reads the bytes after the first one of a sequence: `needed` are missing, `value` and `read`
count what is there, and `lo` to `hi` are allowed next. -/
def utf8Rest (value read : Nat) (lo hi : UInt8) : Nat → Bytes → Utf8Step
  | 0, _ => .char (Char.ofNat value) (read - 1)
  | _ + 1, [] => .bad read unexpectedEnd
  | needed + 1, b :: bs =>
    if lo ≤ b && b ≤ hi then
      utf8Rest (value * 64 + (b.toNat - 0x80)) (read + 1) 0x80 0xBF needed bs
    else .bad read invalidContinuation

/-- Reads one character. -/
def utf8Step (b : UInt8) (bs : Bytes) : Utf8Step :=
  if b < 0x80 then .char (Char.ofNat b.toNat) 0
  else if b < 0xC2 then .bad 1 invalidStart
  else if b < 0xE0 then utf8Rest (b.toNat - 0xC0) 1 0x80 0xBF 1 bs
  else if b < 0xF0 then
    utf8Rest (b.toNat - 0xE0) 1 (if b = 0xE0 then 0xA0 else 0x80)
      (if b = 0xED then 0x9F else 0xBF) 2 bs
  else if b < 0xF5 then
    utf8Rest (b.toNat - 0xF0) 1 (if b = 0xF0 then 0x90 else 0x80)
      (if b = 0xF4 then 0x8F else 0xBF) 3 bs
  else .bad 1 invalidStart

/-- Whether the bytes start with an encoded surrogate. -/
def isEncodedSurrogate (b : UInt8) : Bytes → Bool
  | b1 :: b2 :: _ => b = 0xED && 0xA0 ≤ b1 && b1 ≤ 0xBF && isContinuation b2
  | _ => false

/-- Reads the characters from position `pos` on, after skipping `skip` bytes. Encoded surrogates are
let through when `pass` is set. -/
def decodeUtf8From (pass : Bool) (pos skip : Nat) : Bytes → Except DecodeError (List Char)
  | [] => .ok []
  | b :: bs =>
    match skip with
    | k + 1 => decodeUtf8From pass (pos + 1) k bs
    | 0 =>
      match utf8Step b bs with
      | .char c more => (decodeUtf8From pass (pos + 1) more bs).map (c :: ·)
      | .bad length reason =>
        if pass && isEncodedSurrogate b bs then
          (decodeUtf8From pass (pos + 1) 2 bs).map (Char.ofNat 0xFFFD :: ·)
        else .error ⟨"utf-8", (b :: bs).take length, pos, pos + length, reason⟩

/-- The text that bytes encode. -/
def decodeUtf8 (bs : Bytes) : Except DecodeError String :=
  (decodeUtf8From false 0 0 bs).map String.ofList

/-- The text that bytes encode, with U+FFFD for each encoded surrogate. -/
def decodeUtf8Passing (bs : Bytes) : Except DecodeError String :=
  (decodeUtf8From true 0 0 bs).map String.ofList

/-- The characters that bytes encode, with U+FFFD for each ill-formed stretch. -/
def replaceUtf8From (skip : Nat) : Bytes → List Char
  | [] => []
  | b :: bs =>
    match skip with
    | k + 1 => replaceUtf8From k bs
    | 0 =>
      match utf8Step b bs with
      | .char c more => c :: replaceUtf8From more bs
      | .bad length _ => Char.ofNat 0xFFFD :: replaceUtf8From (length - 1) bs

end Waypost.Codec
