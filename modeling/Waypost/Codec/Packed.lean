import Waypost.Codec.Inflate

/-!
# Packed data

Compressed data stand alone or between a header and checksums, in one of two wrappings. `unpack`
gives the plain bytes and says whether the data were complete; bytes after them are left alone.
-/

namespace Waypost.Codec.Packed

open Inflate

/-- What stands around compressed data. -/
inductive Wrapping where
  | bare
  | zlib
  | gzip
deriving DecidableEq, Repr

/-- Plain bytes, and whether nothing is missing at their end. -/
structure Unpacked where
  plain : Bytes
  complete : Bool
deriving DecidableEq, Repr

/-- A sum of bytes that depends on their order. -/
def adler32 (bs : Array UInt8) : Nat :=
  let (a, b) := bs.foldl (fun (s : Nat × Nat) x =>
    let a := (s.1 + x.toNat) % 65521
    (a, (s.2 + a) % 65521)) (1, 0)
  b * 65536 + a

/-- One bit of the division that `crc32` is the remainder of. -/
def crcBit (r : UInt32) : UInt32 :=
  if r &&& 1 = 1 then (r >>> 1) ^^^ 0xEDB88320 else r >>> 1

/-- The remainder of bytes in a division of polynomials. -/
def crc32 (bs : Array UInt8) : Nat :=
  let r :=
    bs.foldl (fun r b => (List.range 8).foldl (fun r _ => crcBit r) (r ^^^ b.toUInt32)) 0xFFFFFFFF
  (r ^^^ 0xFFFFFFFF).toNat

/-- A number of `n` bytes, the highest first. -/
def takeBig (n : Nat) (bits : List Bool) : Except Stop (Nat × List Bool) :=
  match n with
  | 0 => .ok (0, bits)
  | n + 1 => do
    let (b, bits) ← takeNat 8 bits
    let (v, bits) ← takeBig n bits
    return (b * Nat.pow 256 n + v, bits)

/-! ## Headers -/

/-- Reads the header of the short wrapping. -/
def readShortHeader (bits : List Bool) : Except Stop (List Bool) := do
  let (method, bits) ← takeNat 4 bits
  let (window, bits) ← takeNat 4 bits
  let (flags, bits) ← takeNat 8 bits
  if ((window * 16 + method) * 256 + flags) % 31 ≠ 0 then throw (.damaged .header)
  if method ≠ 8 then throw (.damaged .method)
  if 7 < window then throw (.damaged .window)
  if flags.testBit 5 then do
    let _ ← takeNat 32 bits
    throw (.damaged .dictionary)
  return bits

/-- Passes a text that ends with a zero byte; `fuel` is enough if there are no more bytes than
that. -/
def skipText : Nat → List Bool → Except Stop (List Bool)
  | 0, _ => .error .early
  | fuel + 1, bits => do
    let (b, bits) ← takeNat 8 bits
    if b = 0 then return bits else skipText fuel bits

/-- Passes the parts of the long header that its flags announce. -/
def skipParts (flags : Nat) (bits : List Bool) : Except Stop (List Bool) := do
  let bits ←
    if flags.testBit 2 then do
      let (n, bits) ← takeNat 16 bits
      if bits.length < 8 * n then throw .early
      pure (bits.drop (8 * n))
    else pure bits
  let bits ← if flags.testBit 3 then skipText (bits.length / 8 + 1) bits else pure bits
  if flags.testBit 4 then skipText (bits.length / 8 + 1) bits else return bits

/-- Reads the header of the long wrapping, which `bs` begins with. -/
def readLongHeader (bs : Bytes) : Except Stop (List Bool) := do
  let all := bitsOf bs
  let (start, bits) ← takeNat 16 all
  if start ≠ 0x8B1F then throw (.damaged .header)
  let (method, bits) ← takeNat 8 bits
  let (flags, bits) ← takeNat 8 bits
  if method ≠ 8 then throw (.damaged .method)
  if 32 ≤ flags then throw (.damaged .headerFlags)
  let (_, bits) ← takeNat 48 bits
  let bits ← skipParts flags bits
  if flags.testBit 1 then do
    let (sum, rest) ← takeNat 16 bits
    if sum ≠ crc32 (bs.take ((all.length - bits.length) / 8)).toArray % 65536 then
      throw (.damaged .headerSum)
    return rest
  else return bits

/-- Reads what stands before the compressed data. -/
def readHeader : Wrapping → Bytes → Except Stop (List Bool)
  | .bare, bs => .ok (bitsOf bs)
  | .zlib, bs => readShortHeader (bitsOf bs)
  | .gzip, bs => readLongHeader bs

/-! ## The end -/

/-- Checks what stands after the compressed data against the plain bytes. -/
def checkEnd (w : Wrapping) (out : Array UInt8) (bits : List Bool) : Except Stop Unit :=
  match w with
  | .bare => .ok ()
  | .zlib => do
    let (sum, _) ← takeBig 4 (wholeBytes bits)
    if sum ≠ adler32 out then throw (.damaged .dataSum)
  | .gzip => do
    let (sum, bits) ← takeNat 32 (wholeBytes bits)
    if sum ≠ crc32 out then throw (.damaged .dataSum)
    let (size, _) ← takeNat 32 bits
    if size ≠ out.size % Nat.pow 2 32 then throw (.damaged .dataLength)

/-- What is left of reading that stopped after some bytes. -/
def stopped (out : Array UInt8) : Stop → Except Damage Unpacked
  | .early => .ok ⟨out.toList, false⟩
  | .damaged d => .error d

/-- The plain bytes of packed data. -/
def unpack (w : Wrapping) (bs : Bytes) : Except Damage Unpacked :=
  match readHeader w bs with
  | .error stop => stopped #[] stop
  | .ok bits =>
    match inflate bits with
    | (out, .error stop) => stopped out stop
    | (out, .ok bits) =>
      match checkEnd w out bits with
      | .error stop => stopped out stop
      | .ok _ => .ok ⟨out.toList, true⟩

end Waypost.Codec.Packed
