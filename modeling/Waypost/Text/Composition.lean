import Waypost.Text.CompositionTable
import Waypost.Text.Mark

/-!
# Composed text

A letter and the mark on it can be written as two characters or, often, as one. A text is composed
when whatever can be one character is one, and when marks that do not touch each other stand in the
order of their classes. `compose` takes a text apart and puts it together again; `isComposed` says
whether that changes nothing.
-/

namespace Waypost.Text

/-! ## Korean syllables

A syllable is a lead, a vowel and perhaps a tail; the syllables stand in the order of their parts.
-/

/-- The syllable of a lead and a vowel, or of a syllable without a tail and a tail. -/
def syllable? (a b : CodePoint) : Option CodePoint :=
  if 0x1100 ≤ a ∧ a < 0x1113 ∧ 0x1161 ≤ b ∧ b < 0x1176 then
    some (0xAC00 + ((a - 0x1100) * 21 + (b - 0x1161)) * 28)
  else if 0xAC00 ≤ a ∧ a < 0xD7A4 ∧ (a - 0xAC00) % 28 = 0 ∧ 0x11A7 < b ∧ b < 0x11C3 then
    some (a + (b - 0x11A7))
  else none

/-- The two parts of a syllable. -/
def syllableParts? (n : CodePoint) : Option (CodePoint × CodePoint) :=
  if 0xAC00 ≤ n ∧ n < 0xD7A4 then
    let place := n - 0xAC00
    if place % 28 = 0 then some (0x1100 + place / 588, 0x1161 + place % 588 / 28)
    else some (n - place % 28, 0x11A7 + place % 28)
  else none

/-! ## Letters -/

/-- The letter that a letter and a mark become. -/
def composite? (base mark : CodePoint) : Option CodePoint :=
  match (compositions.lookup mark).bind fun row => row.lookup base with
  | some n => some n
  | none => syllable? base mark

/-- The letter that a letter stands for. -/
def substitute? (c : CodePoint) : Option CodePoint :=
  substitutes.findSome? fun (first, row) => if first ≤ c then row[c - first]? else none

/-- The two parts that a letter is made of. -/
def parts? (c : CodePoint) : Option (CodePoint × CodePoint) :=
  match syllableParts? c with
  | some p => some p
  | none =>
    match splits.lookup c with
    | some p => some p
    | none => compositions.findSome? fun (mark, row) =>
        (row.find? fun p => p.2 = c).map fun p => (p.1, mark)

/-- A letter taken apart, at most `n` times. -/
def takeApart : Nat → CodePoint → List CodePoint
  | 0, c => [c]
  | n + 1, c =>
    match substitute? c with
    | some d => takeApart n d
    | none =>
      match parts? c with
      | none => [c]
      | some (a, b) => takeApart n a ++ takeApart n b

/-- No letter of the tables can be taken apart more often than this. -/
def maxTakeApart : Nat := 4

/-- Puts a mark before marks that stand in order. -/
def insertMark (c : CodePoint) : List CodePoint → List CodePoint
  | [] => [c]
  | d :: ds =>
    if 0 < combiningClass d ∧ combiningClass d < combiningClass c then d :: insertMark c ds
    else c :: d :: ds

/-- The text with marks in the order of their classes; those of one class keep their order. -/
def orderMarks : List CodePoint → List CodePoint
  | [] => []
  | c :: cs => insertMark c (orderMarks cs)

/-- Puts a text together from the letter `base` on; `marks` are those on it that stay apart, the
last first. A mark reaches the letter unless one of its own class, or of a higher one, stands
between them. -/
def putTogether (base : CodePoint) (marks : List CodePoint) : List CodePoint → List CodePoint
  | [] => base :: marks.reverse
  | c :: cs =>
    let reaches :=
      match marks with
      | [] => true
      | m :: _ => combiningClass m < combiningClass c
    match if reaches then composite? base c else none with
    | some letter => putTogether letter marks cs
    | none =>
      if combiningClass c = 0 then base :: marks.reverse ++ putTogether c [] cs
      else putTogether base (c :: marks) cs

/-- The composed form of a text. -/
def compose (cs : List CodePoint) : List CodePoint :=
  match orderMarks (cs.flatMap (takeApart maxTakeApart)) with
  | [] => []
  | c :: cs => putTogether c [] cs

/-- Whether a text is composed. -/
def isComposed (cs : List CodePoint) : Bool :=
  compose cs = cs

end Waypost.Text
