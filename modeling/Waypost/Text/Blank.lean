import Waypost.Text.Ranges

/-!
# Blank characters

Blank characters are Unicode's white space together with the four separators U+001C to U+001F.
`strip` removes them from both ends of a text.
-/

namespace Waypost.Text

/-- The code points of blank characters. -/
def blankRanges : List (Nat × Nat) :=
  [(9, 13), (28, 32), (133, 133), (160, 160), (5760, 5760), (8192, 8202), (8232, 8233),
   (8239, 8239), (8287, 8287), (12288, 12288)]

/-- Whether a character is blank. -/
def isBlank (c : Char) : Bool :=
  within blankRanges c.toNat

/-- The characters without blanks at the front. -/
def stripLeft (cs : List Char) : List Char :=
  cs.dropWhile isBlank

/-- The characters without blanks at the end. -/
def stripRight (cs : List Char) : List Char :=
  (cs.reverse.dropWhile isBlank).reverse

/-- The characters without blanks at either end. -/
def stripChars (cs : List Char) : List Char :=
  stripRight (stripLeft cs)

/-- The text without blanks at either end. -/
def strip (s : String) : String :=
  String.ofList (stripChars s.toList)

end Waypost.Text
