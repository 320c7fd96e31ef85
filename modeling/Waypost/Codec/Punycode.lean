import Waypost.Text.Pieces
import Waypost.Text.Ranges

/-!
# Punycode

A label with characters outside ASCII is written in ASCII: first its ASCII characters, then, by
rising code point, how far each other character lies from the one before it. The distances are
numbers of variable length in base 36 whose digits adapt to the distances so far. `encode` writes
this form and `decode` reads it. A text can spell code points that are no characters, so labels are
lists of code points here.
-/

namespace Waypost.Codec.Punycode

open Text

/-- The digit of a value below 36. -/
def digit (d : Nat) : Char :=
  if d < 26 then Char.ofNat (97 + d) else Char.ofNat (22 + d)

/-- The threshold of the digit at weight `k`. -/
def threshold (k bias : Nat) : Nat :=
  if k ≤ bias then 1 else min (k - bias) 26

theorem threshold_pos (k bias : Nat) : 0 < threshold k bias := by
  unfold threshold
  split
  · omega
  · omega

/-- A number in digits, the lowest first. -/
def digits (bias k q : Nat) : List Char :=
  let t := threshold k bias
  if q < t then [digit q]
  else digit (t + (q - t) % (36 - t)) :: digits bias (k + 36) ((q - t) / (36 - t))
termination_by q
decreasing_by
  have h := threshold_pos k bias
  calc (q - threshold k bias) / (36 - threshold k bias)
      ≤ q - threshold k bias := Nat.div_le_self _ _
    _ < q := by omega

/-- Scales a distance down, and counts how often in steps of 36. -/
def scale (delta k : Nat) : Nat × Nat :=
  if 455 < delta then scale (delta / 35) (k + 36) else (delta, k)
termination_by delta
decreasing_by exact Nat.div_lt_self (by omega) (by omega)

/-- The bias after a distance; `count` characters have been written. -/
def adapt (delta count : Nat) (first : Bool) : Nat :=
  let d := if first then delta / 700 else delta / 2
  let (d, k) := scale (d + d / count) 0
  k + 36 * d / (d + 38)

/-- How far writing has come. -/
structure Progress where
  out : List Char := []
  delta : Nat := 0
  bias : Nat := 72
  /-- How many characters have been written. -/
  count : Nat

/-- Passes one character of the label while those of code point `m` are written; `basic` of them
were ASCII. -/
def Progress.pass (basic m : Nat) (p : Progress) (c : CodePoint) : Progress :=
  if c < m then { p with delta := p.delta + 1 }
  else if c = m then
    { out := p.out ++ digits p.bias 36 p.delta, delta := 0
      bias := adapt p.delta (p.count + 1) (p.count = basic), count := p.count + 1 }
  else p

/-- Writes the characters of the given code points, which rise from `n` on. -/
def writeFrom (label : List CodePoint) (basic : Nat) :
    CodePoint → List CodePoint → Progress → List Char
  | _, [], p => p.out
  | n, m :: ms, p =>
    let p :=
      label.foldl (Progress.pass basic m) { p with delta := p.delta + (m - n) * (p.count + 1) }
    writeFrom label basic (m + 1) ms { p with delta := p.delta + 1 }

/-- A label in ASCII. -/
def encode (label : List CodePoint) : List Char :=
  let ascii := label.filter (· < 128)
  let others := (label.filter (128 ≤ ·)).mergeSort.eraseDups
  ascii.map Char.ofNat ++ (if ascii.isEmpty then [] else ['-'])
    ++ writeFrom label ascii.length 128 others { count := ascii.length }

/-! ## Reading -/

/-- The value of a digit. -/
def digitValue? (c : Char) : Option Nat :=
  if 'a' ≤ c ∧ c ≤ 'z' then some (c.toNat - 97)
  else if '0' ≤ c ∧ c ≤ '9' then some (c.toNat - 22)
  else none

/-- How far reading has come: the characters put in place, the code point and the place of the last
one, and the number that is being read. -/
structure Reader where
  out : List CodePoint
  code : CodePoint := 128
  place : Nat := 0
  bias : Nat := 72
  first : Bool := true
  number : Nat := 0
  /-- The weight of the next digit. -/
  weight : Nat := 1
  k : Nat := 36

/-- Whether a number has been begun and not ended. -/
def Reader.midway (r : Reader) : Bool := r.k ≠ 36

/-- Puts the character at the distance that has been read in place. -/
def Reader.place? (r : Reader) (distance : Nat) : Option Reader :=
  let size := r.out.length + 1
  let code := r.code + (r.place + distance) / size
  let place := (r.place + distance) % size
  if code ≤ maxCodePoint then
    some
      { out := r.out.take place ++ code :: r.out.drop place
        code, place := place + 1, bias := adapt distance size r.first, first := false }
  else none

/-- Reads one digit. -/
def Reader.digit? (r : Reader) (c : Char) : Option Reader :=
  match digitValue? c with
  | none => none
  | some d =>
    let t := threshold r.k r.bias
    let number := r.number + d * r.weight
    if d < t then r.place? number
    else some { r with number, weight := r.weight * (36 - t), k := r.k + 36 }

/-- The label that an ASCII text stands for. -/
def decode (cs : List Char) : Option (List CodePoint) :=
  let (ascii, digits) :=
    match Text.cutChars? '-' cs.reverse with
    | none => ([], cs)
    | some (after, before) => (before.reverse, after.reverse)
  match digits.foldlM Reader.digit? { out := ascii.map Char.toNat } with
  | none => none
  | some r => if r.midway then none else some r.out

end Waypost.Codec.Punycode
