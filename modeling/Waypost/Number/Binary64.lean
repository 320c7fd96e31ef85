import Waypost.Number.Integer

/-!
# Binary floating point

`Binary64` holds the values of the 64-bit binary format exactly: a finite value is
`mantissa * 2 ^ exponent` with at most 53 bits. `ofRatio` rounds a fraction to the nearest value, a
half to the even neighbour; `ofDecimal` does so for decimal digits. `shortestDigits` finds the
fewest decimal digits that read back, and `render` writes them.
-/

namespace Waypost.Number

open Text

/-- A value of the 64-bit binary format. -/
inductive Binary64 where
  | nan
  | infinity (negative : Bool)
  | finite (negative : Bool) (mantissa : Nat) (exponent : Int)
deriving DecidableEq, Repr, Inhabited

namespace Binary64

/-- Whether a value is zero, of either sign. -/
def isZero : Binary64 → Bool
  | .finite _ mantissa _ => mantissa = 0
  | _ => false

/-- The exponent of the smallest values. -/
def minExponent : Int := -1074

/-- The exponent of the largest values. -/
def maxExponent : Int := 971

/-- The fraction `num / den` divided by `2 ^ e`, as a fraction. -/
def scaleDown (num den : Nat) (e : Int) : Nat × Nat :=
  match e with
  | .ofNat k => (num, den * Nat.pow 2 k)
  | .negSucc k => (num * Nat.pow 2 (k + 1), den)

/-- The quotient rounded to the nearest natural number, a half to the even neighbour. -/
def roundDiv (num den : Nat) : Nat :=
  let q := num / den
  let r := num % den
  if 2 * r < den then q
  else if den < 2 * r then q + 1
  else if q % 2 = 0 then q else q + 1

/-- The exponent at which a positive fraction has a quotient of 53 bits. -/
def exponentFor (num den : Nat) : Int :=
  let e : Int := (Nat.log2 num : Int) - Nat.log2 den - 52
  let (n, d) := scaleDown num den e
  let e := if n / d < Nat.pow 2 52 then e - 1 else e
  max e minExponent

/-- The value nearest to `num / den`. -/
def ofRatio (negative : Bool) (num den : Nat) : Binary64 :=
  if num = 0 then .finite negative 0 minExponent
  else
    let e := exponentFor num den
    let (n, d) := scaleDown num den e
    let m := roundDiv n d
    let (m, e) := if m = Nat.pow 2 53 then (Nat.pow 2 52, e + 1) else (m, e)
    if e > maxExponent then .infinity negative else .finite negative m e

/-- The value nearest to `digits * 10 ^ e`. -/
def ofDecimal (negative : Bool) (digits : Nat) (e : Int) : Binary64 :=
  if digits = 0 then .finite negative 0 minExponent
  else
    match e with
    | .ofNat k => if k > 400 then .infinity negative else ofRatio negative (digits * Nat.pow 10 k) 1
    | .negSucc k =>
      if k > 400 + (Nat.log2 digits + 1) then .finite negative 0 minExponent
      else ofRatio negative digits (Nat.pow 10 (k + 1))

/-- The integer a value is equal to, if it is equal to one. -/
def toInt? : Binary64 → Option Int
  | .finite negative m e =>
    let magnitude? : Option Nat :=
      match e with
      | .ofNat k => some (m * Nat.pow 2 k)
      | .negSucc k => if m % Nat.pow 2 (k + 1) = 0 then some (m / Nat.pow 2 (k + 1)) else none
    magnitude?.map fun v => if negative then -(v : Int) else v
  | _ => none

/-- Whether two values are equal as numbers: zeros are equal, and nothing is equal to a NaN. -/
def sameNumber : Binary64 → Binary64 → Bool
  | .finite _ 0 _, .finite _ 0 _ => true
  | .nan, _ => false
  | _, .nan => false
  | a, b => a == b

/-- The position of the decimal point of a positive fraction: the least `p` with
`num / den < 10 ^ p`, searched downwards from a bound in at most `fuel` steps. -/
def decimalPoint (num den : Nat) : Nat → Int → Int
  | 0, p => p
  | fuel + 1, p =>
    let below :=
      match p - 1 with
      | .ofNat k => decide (num < den * Nat.pow 10 k)
      | .negSucc k => decide (num * Nat.pow 10 (k + 1) < den)
    if below then decimalPoint num den fuel (p - 1) else p

/-- The two neighbours of `num / den` on the grid of multiples of `10 ^ e`, the nearer one first. -/
def gridNeighbours (num den : Nat) (e : Int) : List Nat :=
  let (n, d) :=
    match e with
    | .ofNat k => (num, den * Nat.pow 10 k)
    | .negSucc k => (num * Nat.pow 10 (k + 1), den)
  let q := n / d
  let r := n % d
  if r = 0 then [q] else if 2 * r < d || (2 * r == d && q % 2 == 0) then [q, q + 1] else [q + 1, q]

/-- The fewest digits that read back as the value, and the exponent of the last digit. At most
`fuel` digits beyond `n` are tried. -/
def shortestFrom (m : Nat) (e : Int) (num den : Nat) (point : Int) : Nat → Nat → Nat × Int
  | 0, _ => (m, e)
  | fuel + 1, n =>
    let k := point - n
    match (gridNeighbours num den k).find? fun d => ofDecimal false d k == .finite false m e with
    | some d => (d, k)
    | none => shortestFrom m e num den point fuel (n + 1)

/-- The fewest decimal digits that read back as `m * 2 ^ e`, with the exponent of the last one. -/
def shortestDigits (m : Nat) (e : Int) : Nat × Int :=
  let (num, den) :=
    match e with
    | .ofNat k => (m * Nat.pow 2 k, 1)
    | .negSucc k => (m, Nat.pow 2 (k + 1))
  let bound : Int := ((Nat.log2 num : Int) - Nat.log2 den) * 3 / 10 + 3
  shortestFrom m e num den (decimalPoint num den 800 bound) 18 1

/-- Decimal digits without zeros at the end, and the exponent of the last one. -/
def trimZeros : Nat → Nat × Int → Nat × Int
  | 0, r => r
  | fuel + 1, (d, e) => if d ≠ 0 && d % 10 = 0 then trimZeros fuel (d / 10, e + 1) else (d, e)

/-- Digits and the exponent of the last one, positionally when the decimal point lies from four
places before the first digit to sixteen after it, otherwise with an exponent of at least two
digits. -/
def layOut (digits : Nat) (e : Int) : String :=
  let ds := (toString digits).toList
  let point : Int := ds.length + e
  if -4 < point && point ≤ 16 then
    match point with
    | .ofNat 0 => "0." ++ String.ofList ds
    | .ofNat k =>
      if k < ds.length then String.ofList (ds.take k ++ '.' :: ds.drop k)
      else String.ofList (ds ++ List.replicate (k - ds.length) '0') ++ ".0"
    | .negSucc k => "0." ++ String.ofList (List.replicate (k + 1) '0' ++ ds)
  else
    let x := point - 1
    let mark := if x < 0 then "e-" else "e+"
    let width := if x.natAbs < 10 then "0" else ""
    let body := match ds with
      | [] => []
      | [d] => [d]
      | d :: rest => d :: '.' :: rest
    String.ofList body ++ mark ++ width ++ toString x.natAbs

/-- The text of a value: the fewest digits that read back. -/
def render : Binary64 → String
  | .nan => "nan"
  | .infinity negative => if negative then "-inf" else "inf"
  | .finite negative m e =>
    let sign := if negative then "-" else ""
    if m = 0 then sign ++ "0.0"
    else
      let (d, k) := trimZeros 400 (shortestDigits m e)
      sign ++ layOut d k

/-- Plain digits: their value, how many there are, and the rest. -/
def takeDigits (value count : Nat) : List Char → Nat × Nat × List Char
  | [] => (value, count, [])
  | c :: cs =>
    match digitValue? c with
    | some d => takeDigits (value * 10 + d) (count + 1) cs
    | none => (value, count, c :: cs)

/-- The exponent mark with its digits, or nothing. -/
def readExponent? : List Char → Option Int
  | [] => some 0
  | c :: cs =>
    if c = 'e' || c = 'E' then
      let (negative, body) := readSign cs
      match takeDigits 0 0 body with
      | (_, 0, _) => none
      | (value, _, []) => some (if negative then -(value : Int) else value)
      | _ => none
    else none

/-- A decimal number without a sign. -/
def readUnsigned? (negative : Bool) (cs : List Char) : Option Binary64 :=
  let (whole, wholeCount, rest) := takeDigits 0 0 cs
  let (digits, places, rest) :=
    match rest with
    | '.' :: more =>
      let (v, n, rest) := takeDigits whole 0 more
      (v, n, rest)
    | _ => (whole, 0, rest)
  if wholeCount + places = 0 then none
  else (readExponent? rest).map fun x => ofDecimal negative digits (x - places)

/-- Removes the underscores between digits; fails on any other underscore. -/
def dropUnderscores? (afterDigit : Bool) : List Char → Option (List Char)
  | [] => some []
  | '_' :: c :: cs =>
    if afterDigit && (digitValue? c).isSome then (dropUnderscores? true cs).map (c :: ·) else none
  | '_' :: [] => none
  | c :: cs => (dropUnderscores? (digitValue? c).isSome cs).map (c :: ·)

/-- Reads a decimal number, an infinity or a NaN, with blanks allowed around it. -/
def read? (s : String) : Option Binary64 :=
  let body := ((s.toList.dropWhile isNumberBlank).reverse.dropWhile isNumberBlank).reverse
  match dropUnderscores? false body with
  | none => none
  | some cs =>
    let (negative, cs) := readSign cs
    let word := String.ofList (cs.map Char.toLower)
    if word = "nan" then some .nan
    else if word = "inf" || word = "infinity" then some (.infinity negative)
    else readUnsigned? negative cs

/-- A text that is no number. -/
structure NotNumber where
  text : String
deriving DecidableEq, Repr

/-- The wording of the error. -/
def NotNumber.message (e : NotNumber) : String :=
  "could not convert string to float: " ++ quote e.text

/-- Reads a number, with an error for other texts. -/
def read (s : String) : Except NotNumber Binary64 :=
  match read? s with
  | none => .error ⟨s⟩
  | some x => .ok x

end Binary64

end Waypost.Number
