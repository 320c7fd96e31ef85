import Waypost.Digest.Blake2b

/-!
# Argon2

The memory-hard password hash in its three variants. A `Cost` says how many passes are made over how
much memory in how many lanes; `hash` fills the memory and reads the result off its last column.
-/

namespace Waypost.Digest.Argon2

open Blake2b

/-- Which blocks are referred to: chosen by the data, by the position, or by the position at
first. -/
inductive Variant where
  | d
  | i
  | id
deriving DecidableEq, Repr

/-- The number of a variant. -/
def Variant.number : Variant → Nat
  | .d => 0
  | .i => 1
  | .id => 2

/-- The parameters of a hash: memory in kibibytes. -/
structure Cost where
  variant : Variant
  version : Nat
  memory : Nat
  passes : Nat
  lanes : Nat
deriving DecidableEq, Repr

/-- Blocks of 1024 bytes as 128 words. -/
abbrev Block := Array UInt64

/-- The block of zeros. -/
def zeroBlock : Block := Array.replicate 128 0

/-- The hash chain that gives more than 64 bytes: of every link but the last the first half is
kept. -/
def chain : Nat → Nat → Bytes → Bytes
  | 0, _, _ => []
  | fuel + 1, size, v =>
    if size ≤ 64 then Blake2b.hash size v
    else
      let next := Blake2b.hash 64 v
      next.take 32 ++ chain fuel (size - 32) next

/-- The hash of any size. -/
def longHash (size : Nat) (message : Bytes) : Bytes :=
  chain (size + 1) size (littleEndian 4 size ++ message)

/-- A text with its length before it. -/
def sized (bs : Bytes) : Bytes :=
  littleEndian 4 bs.length ++ bs

/-- What the first hash is taken of. -/
def initialBytes (cost : Cost) (size : Nat) (password salt : Bytes) : Bytes :=
  ([cost.lanes, size, cost.memory, cost.passes, cost.version, cost.variant.number].flatMap
    (littleEndian 4))
    ++ sized password ++ sized salt ++ sized [] ++ sized []

/-- The words of 1024 bytes. -/
def blockOf (bs : Bytes) : Block :=
  ((List.range 128).map fun i => UInt64.ofNat (ofLittleEndian ((bs.drop (8 * i)).take 8))).toArray

/-- Addition strengthened by the product of the lower halves. -/
def blend (a b : UInt64) : UInt64 :=
  a + b + 2 * (a &&& 0xFFFFFFFF) * (b &&& 0xFFFFFFFF)

/-- Mixes four places of a block. -/
def mixPlaces (v : Block) (l : Lane) : Block :=
  let (ia, ib, ic, id) := l
  let a := blend (v.getD ia 0) (v.getD ib 0)
  let d := rotate 32 (v.getD id 0 ^^^ a)
  let c := blend (v.getD ic 0) d
  let b := rotate 24 (v.getD ib 0 ^^^ c)
  let a := blend a b
  let d := rotate 16 (d ^^^ a)
  let c := blend c d
  let b := rotate 63 (b ^^^ c)
  (((v.setIfInBounds ia a).setIfInBounds ib b).setIfInBounds ic c).setIfInBounds id d

/-- Mixes the sixteen places given by `place`. -/
def permute (place : Nat → Nat) (v : Block) : Block :=
  Blake2b.lanes.foldl (fun v (a, b, c, d) => mixPlaces v (place a, place b, place c, place d)) v

/-- The exclusive or of two blocks. -/
def xorBlock (x y : Block) : Block :=
  x.zipWith (· ^^^ ·) y

/-- The compression of two blocks: rows of sixteen words are mixed, then columns of pairs. -/
def compress (x y : Block) : Block :=
  let r := xorBlock x y
  let rows := (List.range 8).foldl (fun v i => permute (fun k => 16 * i + k) v) r
  let columns :=
    (List.range 8).foldl (fun v i => permute (fun k => 16 * (k / 2) + 2 * i + k % 2) v) rows
  xorBlock r columns

/-- Blocks per segment: a lane has four segments. -/
def Cost.segment (c : Cost) : Nat := c.memory / (4 * c.lanes)

/-- Blocks per lane. -/
def Cost.lane (c : Cost) : Nat := 4 * c.segment

/-- A position in the filling of the memory. -/
structure Position where
  pass : Nat
  slice : Nat
  lane : Nat
  index : Nat

/-- Whether the block to refer to is chosen by the position alone. -/
def byPosition (c : Cost) (p : Position) : Bool :=
  match c.variant with
  | .d => false
  | .i => true
  | .id => p.pass = 0 && p.slice < 2

/-- The block of addresses that covers a position. -/
def addresses (c : Cost) (p : Position) : Block :=
  let counter := p.index / 128 + 1
  let input := [p.pass, p.lane, p.slice, c.lane * c.lanes, c.passes, c.variant.number, counter]
  let z : Block := (input.map UInt64.ofNat).toArray ++ Array.replicate 121 0
  compress zeroBlock (compress zeroBlock z)

/-- Where the block to refer to stands in its lane, chosen by `j` among those that are complete. -/
def reference (c : Cost) (p : Position) (sameLane : Bool) (j : Nat) : Nat :=
  let before := if p.pass = 0 then p.slice * c.segment else c.lane - c.segment
  let area :=
    if sameLane || (p.pass = 0 && p.slice = 0) then before + p.index - 1
    else if p.index = 0 then before - 1 else before
  let x := j * j / Nat.pow 2 32
  let offset := area - 1 - area * x / Nat.pow 2 32
  let start := if p.pass = 0 || p.slice = 3 then 0 else (p.slice + 1) * c.segment
  (start + offset) % c.lane

/-- Fills one block. -/
def fillBlock (c : Cost) (memory : Array Block) (p : Position) : Array Block :=
  let column := p.slice * c.segment + p.index
  let here := p.lane * c.lane + column
  let previous := p.lane * c.lane + (if column = 0 then c.lane - 1 else column - 1)
  let last := memory.getD previous zeroBlock
  let word := if byPosition c p then (addresses c p).getD (p.index % 128) 0 else last.getD 0 0
  let j1 := word.toNat % Nat.pow 2 32
  let j2 := word.toNat / Nat.pow 2 32
  let lane := if p.pass = 0 && p.slice = 0 then p.lane else j2 % c.lanes
  let other := memory.getD (lane * c.lane + reference c p (lane = p.lane) j1) zeroBlock
  let fresh := compress last other
  let block :=
    if p.pass = 0 || c.version = 0x10 then fresh else xorBlock fresh (memory.getD here zeroBlock)
  memory.setIfInBounds here block

/-- The positions of a pass in the order of filling. The first two blocks of each lane are there
from the start. -/
def positions (c : Cost) (pass : Nat) : List Position :=
  (List.range 4).flatMap fun slice =>
    (List.range c.lanes).flatMap fun lane =>
      let skip := if pass = 0 && slice = 0 then 2 else 0
      ((List.range c.segment).drop skip).map fun index => ⟨pass, slice, lane, index⟩

/-- The memory before the first pass. -/
def initialMemory (c : Cost) (h0 : Bytes) : Array Block :=
  ((List.range c.lanes).flatMap fun lane =>
    (List.range c.lane).map fun column =>
      if column < 2 then
        blockOf (longHash 1024 (h0 ++ littleEndian 4 column ++ littleEndian 4 lane))
      else zeroBlock).toArray

/-- The hash of `size` bytes. -/
def hash (c : Cost) (size : Nat) (password salt : Bytes) : Bytes :=
  let h0 := Blake2b.hash 64 (initialBytes c size password salt)
  let memory := (List.range c.passes).foldl (fun m pass => (positions c pass).foldl (fillBlock c) m)
    (initialMemory c h0)
  let final := (List.range c.lanes).foldl (fun x lane =>
    xorBlock x (memory.getD (lane * c.lane + (c.lane - 1)) zeroBlock)) zeroBlock
  longHash size (final.toList.flatMap fun w => littleEndian 8 w.toNat)

end Waypost.Digest.Argon2
