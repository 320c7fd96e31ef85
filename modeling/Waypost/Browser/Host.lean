import Waypost.Text.Hex
import Waypost.Text.Pieces

/-!
# Hosts

A host is an address of four numbers, an address of eight groups in brackets, or a name.
-/

namespace Waypost.Browser

open Text

/-! ## Four numbers -/

/-- Whether a host is written like an address of four numbers: four runs of digits with points
between them. -/
def isQuadStyle (host : List Char) : Bool :=
  let runs := splitChars '.' host
  runs.length = 4 && runs.all fun r => !r.isEmpty && r.all Char.isDigit

/-- The number that decimal digits stand for. -/
def decimalValue (digits : List Char) : Nat :=
  digits.foldl (fun n c => n * 10 + (c.toNat - 48)) 0

/-- Whether there are four numbers that each fit into a byte and have no leading zero. -/
def isFourPart (host : List Char) : Bool :=
  let ps := splitChars '.' host
  ps.length = 4 && ps.all fun p =>
    1 ≤ p.length && p.length ≤ 3 && p.all Char.isDigit && (p.length = 1 || p.head? ≠ some '0') &&
      decimalValue p ≤ 255

/-! ## Eight groups -/

/-- Whether a text is a group of an address: one to four hexadecimal digits. -/
def isGroup (cs : List Char) : Bool :=
  1 ≤ cs.length && cs.length ≤ 4 && cs.all fun c => (hexValue? c).isSome

/-- The groups with an address of four numbers in the last place written as two groups. -/
def expandTail (groups : List (List Char)) : Option (List (List Char)) :=
  match groups.getLast? with
  | none => none
  | some last =>
    if last.contains '.' then
      if isFourPart last then some (groups.dropLast ++ [['0'], ['0']]) else none
    else some groups

/-- Whether groups stand for an address. One run of empty groups in the middle stands for the groups
that are missing. -/
def isGroupList (groups : List (List Char)) : Bool :=
  let n := groups.length
  let gaps := ((groups.zipIdx.drop 1).dropLast.filter fun g => g.1.isEmpty).map Prod.snd
  match gaps with
  | [] => n = 8 && groups.all isGroup
  | [i] =>
    let before := groups.take i
    let after := groups.drop (i + 1)
    let before := if before = [[]] then [] else before
    let after := if after = [[]] then [] else after
    before.all isGroup && after.all isGroup && before.length + after.length ≤ 7
  | _ => false

/-- Whether a text is an address of eight groups, which a zone may follow. -/
def isEightGroup (address : List Char) : Bool :=
  let (cs, zoned) :=
    match cutChars? '%' address with
    | none => (address, true)
    | some (cs, zone) => (cs, !zone.isEmpty && !zone.contains '%')
  let groups := splitChars ':' cs
  zoned && 3 ≤ groups.length && !cs.contains '/' && ((expandTail groups).map isGroupList).getD false

end Waypost.Browser
