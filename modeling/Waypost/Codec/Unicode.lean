import Waypost.Codec.Utf8

/-!
# Finding out the encoding of a document

JSON documents come in UTF-8, UTF-16 or UTF-32. `detect` tells them apart by a byte order mark or by
where the first zero bytes stand, and `decodeDocument` reads the bytes accordingly. Lone surrogates
are let through as U+FFFD.
-/

namespace Waypost.Codec

/-- The encodings of a document. -/
inductive Encoding where
  | utf8 (marked : Bool)
  | utf16 (bigEndian marked : Bool)
  | utf32 (bigEndian marked : Bool)
deriving DecidableEq, Repr

/-- The encoding of a document without a byte order mark. -/
def detectUnmarked : Bytes → Encoding
  | [a, b] =>
    if a = 0 then .utf16 true false else if b = 0 then .utf16 false false else .utf8 false
  | a :: b :: c :: d :: _ =>
    if a = 0 then (if b = 0 then .utf32 true false else .utf16 true false)
    else if b = 0 then (if c = 0 && d = 0 then .utf32 false false else .utf16 false false)
    else .utf8 false
  | _ => .utf8 false

/-- The encoding of a document. -/
def detect (bs : Bytes) : Encoding :=
  if [0x00, 0x00, 0xFE, 0xFF].isPrefixOf bs then .utf32 true true
  else if [0xFF, 0xFE, 0x00, 0x00].isPrefixOf bs then .utf32 false true
  else if [0xFE, 0xFF].isPrefixOf bs then .utf16 true true
  else if [0xFF, 0xFE].isPrefixOf bs then .utf16 false true
  else if [0xEF, 0xBB, 0xBF].isPrefixOf bs then .utf8 true
  else detectUnmarked bs

/-- The numbers written in `width` bytes each, from position `pos` on; fails on an incomplete
one. -/
def codeUnits (codec : String) (bigEndian : Bool) (width pos : Nat) (acc : Bytes) :
    Bytes → Except DecodeError (List Nat)
  | [] =>
    if acc.isEmpty then .ok []
    else .error ⟨codec, acc.reverse, pos - acc.length, pos, "truncated data"⟩
  | b :: bs =>
    let acc := b :: acc
    if acc.length < width then codeUnits codec bigEndian width (pos + 1) acc bs
    else
      let ordered := if bigEndian then acc.reverse else acc
      let n := ordered.foldl (fun v (x : UInt8) => v * 256 + x.toNat) 0
      (codeUnits codec bigEndian width (pos + 1) [] bs).map (n :: ·)

/-- Puts surrogate pairs together. -/
def joinSurrogates : List Nat → List Char
  | [] => []
  | [n] => [if 0xD800 ≤ n && n < 0xE000 then Char.ofNat 0xFFFD else Char.ofNat n]
  | n :: m :: ns =>
    if 0xD800 ≤ n && n < 0xDC00 && 0xDC00 ≤ m && m < 0xE000 then
      Char.ofNat (0x10000 + (n - 0xD800) * 0x400 + (m - 0xDC00)) :: joinSurrogates ns
    else
      (if 0xD800 ≤ n && n < 0xE000 then Char.ofNat 0xFFFD else Char.ofNat n) ::
        joinSurrogates (m :: ns)

/-- The characters of four-byte numbers, from position `pos` on. -/
def wideChars (codec : String) (bigEndian : Bool) (pos : Nat) :
    List Nat → Except DecodeError (List Char)
  | [] => .ok []
  | n :: ns =>
    if n < 0x110000 then
      (wideChars codec bigEndian (pos + 4) ns).map
        ((if 0xD800 ≤ n && n < 0xE000 then Char.ofNat 0xFFFD else Char.ofNat n) :: ·)
    else .error ⟨codec, [], pos, pos + 4, "code point not in range(0x110000)"⟩

/-- The longest prefix of complete numbers, and whether something is left over. -/
def completeUnits (width : Nat) (bs : Bytes) : Bytes :=
  bs.take (bs.length / width * width)

/-- The text of a document. -/
def decodeDocument (bs : Bytes) : Except DecodeError String :=
  match detect bs with
  | .utf8 marked => decodeUtf8Passing (if marked then bs.drop 3 else bs)
  | .utf16 bigEndian marked =>
    let codec := if bigEndian then "utf-16-be" else "utf-16-le"
    let skip := if marked then 2 else 0
    (codeUnits codec bigEndian 2 skip [] (bs.drop skip)).map fun ns =>
      String.ofList (joinSurrogates ns)
  | .utf32 bigEndian marked => do
    let codec := if bigEndian then "utf-32-be" else "utf-32-le"
    let skip := if marked then 4 else 0
    let body := bs.drop skip
    let whole ← codeUnits codec bigEndian 4 skip [] (completeUnits 4 body)
    let cs ← wideChars codec bigEndian skip whole
    let _ ← codeUnits codec bigEndian 4 skip [] body
    return String.ofList cs

end Waypost.Codec
