import Waypost.Codec.Bytes

/-!
# Base64

Two alphabets, the standard one and the one that is safe in URLs. `encode` writes no padding.
`decodeLenient` skips what is not in the alphabet and asks only that the padding completes the last
group; `decodeStrict` takes exactly what `encode` writes.
-/

namespace Waypost.Codec.Base64

/-- The last two digits, which tell the alphabets apart. -/
inductive Alphabet where
  | standard
  | urlSafe
deriving DecidableEq, Repr

/-- The digit for a value below 64. -/
def digit (a : Alphabet) (n : Nat) : UInt8 :=
  if n < 26 then UInt8.ofNat (65 + n)
  else if n < 52 then UInt8.ofNat (71 + n)
  else if n < 62 then UInt8.ofNat (n - 4)
  else
    match a with
    | .standard => if n = 62 then 43 else 47
    | .urlSafe => if n = 62 then 45 else 95

/-- The value of a digit. -/
def value? (a : Alphabet) (b : UInt8) : Option Nat :=
  let n := b.toNat
  if 65 ≤ n && n ≤ 90 then some (n - 65)
  else if 97 ≤ n && n ≤ 122 then some (n - 71)
  else if 48 ≤ n && n ≤ 57 then some (n + 4)
  else
    match a with
    | .standard => if n = 43 then some 62 else if n = 47 then some 63 else none
    | .urlSafe => if n = 45 || n = 43 then some 62 else if n = 95 || n = 47 then some 63 else none

/-- The digits for bytes, without padding. -/
def encode (a : Alphabet) : Bytes → Bytes
  | [] => []
  | [x] =>
    let x := x.toNat
    [digit a (x / 4), digit a (x % 4 * 16)]
  | [x, y] =>
    let (x, y) := (x.toNat, y.toNat)
    [digit a (x / 4), digit a (x % 4 * 16 + y / 16), digit a (y % 16 * 4)]
  | x :: y :: z :: rest =>
    let (x, y, z) := (x.toNat, y.toNat, z.toNat)
    digit a (x / 4) :: digit a (x % 4 * 16 + y / 16) :: digit a (y % 16 * 4 + z / 64) ::
      digit a (z % 64)
      :: encode a rest

/-- The padding sign. -/
def padding : UInt8 := 61

/-- The digits for bytes, with the padding that completes the last group. -/
def encodePadded (a : Alphabet) (bs : Bytes) : Bytes :=
  let ds := encode a bs
  ds ++ List.replicate ((4 - ds.length % 4) % 4) padding

/-- Reads digits, skipping everything else. `filled` counts the digits of the group at hand, `left`
holds its bits that are not yet written, and `pads` counts padding signs. -/
def decodeFrom (a : Alphabet) (filled left pads : Nat) : Bytes → Option Bytes
  | [] => if filled = 0 then some [] else none
  | b :: bs =>
    if b = padding then
      if 2 ≤ filled && 4 ≤ filled + (pads + 1) then some []
      else decodeFrom a filled left (if 2 ≤ filled then pads + 1 else pads) bs
    else
      match value? a b with
      | none => decodeFrom a filled left pads bs
      | some v =>
        if filled = 0 then decodeFrom a 1 v 0 bs
        else if filled = 1 then
          (decodeFrom a 2 (v % 16) 0 bs).map (UInt8.ofNat (left * 4 + v / 16) :: ·)
        else if filled = 2 then
          (decodeFrom a 3 (v % 4) 0 bs).map (UInt8.ofNat (left * 16 + v / 4) :: ·)
        else (decodeFrom a 0 0 0 bs).map (UInt8.ofNat (left * 64 + v) :: ·)

/-- The bytes that digits stand for. Padding is added up to a multiple of four before reading. -/
def decodeLenient (a : Alphabet) (bs : Bytes) : Option Bytes :=
  decodeFrom a 0 0 0 (bs ++ List.replicate ((4 - bs.length % 4) % 4) padding)

/-- The bytes that leading digits stand for, and what follows the digits. Fails if the number of
digits is not possible or if bits are left over that are not zero. -/
def decodeStrictFrom (a : Alphabet) (bits : Nat) (acc : Nat) : Bytes → Option (Bytes × Bytes)
  | [] => if bits ≤ 4 && acc = 0 then some ([], []) else none
  | b :: bs =>
    match value? a b with
    | none => if bits ≤ 4 && acc = 0 then some ([], b :: bs) else none
    | some v =>
      let acc := acc * 64 + v
      let bits := bits + 6
      if 8 ≤ bits then
        let rest := bits - 8
        (decodeStrictFrom a rest (acc % 2 ^ rest) bs).map fun r =>
          (UInt8.ofNat (acc / 2 ^ rest) :: r.1, r.2)
      else decodeStrictFrom a bits acc bs

/-- The bytes that leading digits stand for, and what follows the digits. -/
def decodeStrict (a : Alphabet) (bs : Bytes) : Option (Bytes × Bytes) :=
  decodeStrictFrom a 0 0 bs

end Waypost.Codec.Base64
