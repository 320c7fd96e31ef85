import Waypost.Codec.Bytes

/-!
# SHA-1 and HMAC

The hash of twenty bytes and the keyed hash built on it.
-/

namespace Waypost.Digest.Sha1

/-- The five words of the state. -/
structure State where
  a : UInt32
  b : UInt32
  c : UInt32
  d : UInt32
  e : UInt32

/-- The state before the first block. -/
def initial : State := ⟨0x67452301, 0xEFCDAB89, 0x98BADCFE, 0x10325476, 0xC3D2E1F0⟩

/-- Turns a word left by `n` bits. -/
def rotate (n x : UInt32) : UInt32 :=
  (x <<< n) ||| (x >>> (32 - n))

/-- The bytes of a number, the most significant first. -/
def bigEndian : Nat → Nat → Bytes
  | 0, _ => []
  | width + 1, n => bigEndian width (n / 256) ++ [UInt8.ofNat n]

/-- The number that bytes stand for, the most significant first. -/
def ofBigEndian (bs : Bytes) : Nat :=
  bs.foldl (fun v b => v * 256 + b.toNat) 0

/-- The message with a one bit, zeros and its length in bits, filling whole blocks of 64 bytes. -/
def pad (message : Bytes) : Bytes :=
  let n := message.length
  message ++ [0x80] ++ List.replicate ((119 - n % 64) % 64) 0 ++ bigEndian 8 (8 * n)

/-- Pieces of `size` bytes; `fuel` bounds their number. -/
def chunks (size : Nat) : Nat → Bytes → List Bytes
  | 0, _ => []
  | fuel + 1, bs => if bs.isEmpty then [] else bs.take size :: chunks size fuel (bs.drop size)

/-- The eighty words of a block: sixteen of its own and those derived from them. -/
def schedule (block : Bytes) : Array UInt32 :=
  let start := ((chunks 4 16 block).map fun w => UInt32.ofNat (ofBigEndian w)).toArray
  (List.range 64).foldl (fun w _ =>
    let t := w.size
    let x := w.getD (t - 3) 0 ^^^ w.getD (t - 8) 0 ^^^ w.getD (t - 14) 0 ^^^ w.getD (t - 16) 0
    w.push (rotate 1 x)) start

/-- One of the eighty steps. -/
def step (s : State) (t : Nat) (w : UInt32) : State :=
  let (f, k) : UInt32 × UInt32 :=
    if t < 20 then ((s.b &&& s.c) ||| ((~~~ s.b) &&& s.d), 0x5A827999)
    else if t < 40 then (s.b ^^^ s.c ^^^ s.d, 0x6ED9EBA1)
    else if t < 60 then ((s.b &&& s.c) ||| (s.b &&& s.d) ||| (s.c &&& s.d), 0x8F1BBCDC)
    else (s.b ^^^ s.c ^^^ s.d, 0xCA62C1D6)
  ⟨rotate 5 s.a + f + s.e + k + w, s.a, rotate 30 s.b, s.c, s.d⟩

/-- The state after a block. -/
def compress (s : State) (block : Bytes) : State :=
  let w := schedule block
  let r := (List.range 80).foldl (fun s t => step s t (w.getD t 0)) s
  ⟨s.a + r.a, s.b + r.b, s.c + r.c, s.d + r.d, s.e + r.e⟩

/-- The hash of a message. -/
def hash (message : Bytes) : Bytes :=
  let padded := pad message
  let s := (chunks 64 padded.length padded).foldl compress initial
  [s.a, s.b, s.c, s.d, s.e].flatMap fun w => bigEndian 4 w.toNat

/-- A key as one block: hashed if it is longer, then filled with zeros. -/
def keyBlock (key : Bytes) : Bytes :=
  let k := if key.length > 64 then hash key else key
  k ++ List.replicate (64 - k.length) 0

/-- The keyed hash of a message. -/
def hmac (key message : Bytes) : Bytes :=
  let k := keyBlock key
  hash (k.map (· ^^^ 0x5C) ++ hash (k.map (· ^^^ 0x36) ++ message))

end Waypost.Digest.Sha1
