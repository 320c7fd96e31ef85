import Waypost.Codec.Bytes

/-!
# BLAKE2b

The hash with 64-bit words and a result of up to 64 bytes, without a key.
-/

namespace Waypost.Digest.Blake2b

/-- The words of the state before the first block. -/
def initial : Array UInt64 :=
  #[0x6A09E667F3BCC908, 0xBB67AE8584CAA73B, 0x3C6EF372FE94F82B, 0xA54FF53A5F1D36F1,
    0x510E527FADE682D1, 0x9B05688C2B3E6C1F, 0x1F83D9ABFB41BD6B, 0x5BE0CD19137E2179]

/-- The order in which each round takes the message words. -/
def order : List (List Nat) :=
  [[0, 1, 2, 3, 4, 5, 6, 7, 8, 9, 10, 11, 12, 13, 14, 15],
   [14, 10, 4, 8, 9, 15, 13, 6, 1, 12, 0, 2, 11, 7, 5, 3],
   [11, 8, 12, 0, 5, 2, 15, 13, 10, 14, 3, 6, 7, 1, 9, 4],
   [7, 9, 3, 1, 13, 12, 11, 14, 2, 6, 5, 10, 4, 0, 15, 8],
   [9, 0, 5, 7, 2, 4, 10, 15, 14, 1, 11, 12, 6, 8, 3, 13],
   [2, 12, 6, 10, 0, 11, 8, 3, 4, 13, 7, 5, 15, 14, 1, 9],
   [12, 5, 1, 15, 14, 13, 4, 10, 0, 7, 6, 3, 9, 2, 8, 11],
   [13, 11, 7, 14, 12, 1, 3, 9, 5, 0, 15, 4, 8, 6, 2, 10],
   [6, 15, 14, 9, 11, 3, 0, 8, 12, 2, 13, 7, 1, 4, 10, 5],
   [10, 2, 8, 4, 7, 6, 1, 5, 15, 11, 9, 14, 3, 12, 13, 0],
   [0, 1, 2, 3, 4, 5, 6, 7, 8, 9, 10, 11, 12, 13, 14, 15],
   [14, 10, 4, 8, 9, 15, 13, 6, 1, 12, 0, 2, 11, 7, 5, 3]]

/-- Turns a word right by `n` bits. -/
def rotate (n x : UInt64) : UInt64 :=
  (x >>> n) ||| (x <<< (64 - n))

/-- The number that bytes stand for, the least significant first. -/
def ofLittleEndian (bs : Bytes) : Nat :=
  bs.foldr (fun b v => v * 256 + b.toNat) 0

/-- The bytes of a number, the least significant first. -/
def littleEndian : Nat → Nat → Bytes
  | 0, _ => []
  | width + 1, n => UInt8.ofNat n :: littleEndian width (n / 256)

/-- The four places of the working state that one mixing step changes. -/
abbrev Lane := Nat × Nat × Nat × Nat

/-- The columns and then the diagonals of the working state. -/
def lanes : List Lane :=
  [(0, 4, 8, 12), (1, 5, 9, 13), (2, 6, 10, 14), (3, 7, 11, 15),
   (0, 5, 10, 15), (1, 6, 11, 12), (2, 7, 8, 13), (3, 4, 9, 14)]

/-- Mixes two message words into four places of the working state. -/
def mix (v : Array UInt64) (l : Lane) (x y : UInt64) : Array UInt64 :=
  let (ia, ib, ic, id) := l
  let a := v.getD ia 0 + v.getD ib 0 + x
  let d := rotate 32 (v.getD id 0 ^^^ a)
  let c := v.getD ic 0 + d
  let b := rotate 24 (v.getD ib 0 ^^^ c)
  let a := a + b + y
  let d := rotate 16 (d ^^^ a)
  let c := c + d
  let b := rotate 63 (b ^^^ c)
  (((v.setIfInBounds ia a).setIfInBounds ib b).setIfInBounds ic c).setIfInBounds id d

/-- One round: every lane takes the next two words in the order of the round. -/
def round (m : Array UInt64) (v : Array UInt64) (sigma : List Nat) : Array UInt64 :=
  (lanes.zip (List.range 8)).foldl (fun v (l, i) =>
    mix v l (m.getD (sigma.getD (2 * i) 0) 0) (m.getD (sigma.getD (2 * i + 1) 0) 0)) v

/-- The sixteen words of a block of 128 bytes. -/
def wordsOf (block : Bytes) : Array UInt64 :=
  ((List.range 16).map fun i => UInt64.ofNat (ofLittleEndian ((block.drop (8 * i)).take 8))).toArray

/-- The state after a block, `count` bytes having been read and `last` marking the last block. -/
def compress (h : Array UInt64) (block : Bytes) (count : Nat) (last : Bool) : Array UInt64 :=
  let start := h ++ initial
  let start := start.setIfInBounds 12 (start.getD 12 0 ^^^ UInt64.ofNat count)
  let start := start.setIfInBounds 13 (start.getD 13 0 ^^^ UInt64.ofNat (count / Nat.pow 2 64))
  let start := if last then start.setIfInBounds 14 (~~~ start.getD 14 0) else start
  let v := order.foldl (round (wordsOf block)) start
  ((List.range 8).map fun i => h.getD i 0 ^^^ v.getD i 0 ^^^ v.getD (i + 8) 0).toArray

/-- Reads blocks; the last one, of up to 128 bytes, is filled with zeros. -/
def absorb : Nat → Array UInt64 → Nat → Bytes → Array UInt64
  | 0, h, _, _ => h
  | fuel + 1, h, count, bs =>
    if bs.length ≤ 128 then
      compress h (bs ++ List.replicate (128 - bs.length) 0) (count + bs.length) true
    else absorb fuel (compress h (bs.take 128) (count + 128) false) (count + 128) (bs.drop 128)

/-- The hash of `size` bytes of a message. -/
def hash (size : Nat) (message : Bytes) : Bytes :=
  let h := initial.setIfInBounds 0 (initial.getD 0 0 ^^^ UInt64.ofNat (0x01010000 + size))
  let out := absorb (message.length + 1) h 0 message
  (out.toList.flatMap fun w => littleEndian 8 w.toNat).take size

end Waypost.Digest.Blake2b
