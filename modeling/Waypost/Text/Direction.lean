import Waypost.Text.Mark

/-!
# Reading direction

Letters are read to the right or to the left, and a label of a name may not mix them. `readOneWay`
is the rule for labels; the tables hold the characters that names may have (Unicode 14).
-/

namespace Waypost.Text

/-- How a character goes along with a reading direction. -/
inductive Direction where
  | leftToRight
  | rightToLeft
  | arabicNumber
  | europeanNumber
  /-- Goes with either direction. -/
  | neutral
  /-- Goes with the character before it. -/
  | mark
  /-- Not known: the character is newer than the tables. -/
  | unknown
deriving DecidableEq, Repr

/-- Letters that are read to the left. -/
def rightToLeftRanges : List (Nat × Nat) :=
  [(1488, 1514), (1519, 1524), (1568, 1599), (1601, 1610), (1646, 1647), (1649, 1652), (1657, 1747),
   (1749, 1749), (1765, 1766), (1774, 1775), (1786, 1791), (1808, 1808), (1810, 1839), (1869, 1957),
   (1969, 1969), (1984, 2026), (2036, 2037), (2048, 2069), (2074, 2074), (2084, 2084), (2088, 2088),
   (2112, 2136), (2144, 2154), (2160, 2183), (2185, 2190), (2208, 2249), (65139, 65139),
   (67584, 67589), (67592, 67592), (67594, 67637), (67639, 67640), (67644, 67644), (67647, 67669),
   (67680, 67702), (67712, 67742), (67808, 67826), (67828, 67829), (67840, 67861), (67872, 67897),
   (67968, 68023), (68030, 68031), (68096, 68096), (68112, 68115), (68117, 68119), (68121, 68149),
   (68192, 68220), (68224, 68252), (68288, 68295), (68297, 68324), (68352, 68405), (68416, 68437),
   (68448, 68466), (68480, 68497), (68608, 68680), (68800, 68850), (68864, 68899), (69248, 69289),
   (69296, 69297), (69376, 69404), (69415, 69415), (69424, 69445), (69488, 69505), (69552, 69572),
   (69600, 69622), (124928, 125124), (125218, 125251), (125259, 125259), (125264, 125273)]

/-- Digits of the Arabic kind. -/
def arabicNumberRanges : List (Nat × Nat) :=
  [(1632, 1641), (68912, 68921)]

/-- Digits of the European kind. -/
def europeanNumberRanges : List (Nat × Nat) :=
  [(48, 57), (1776, 1785)]

/-- Characters that go with either direction. -/
def neutralRanges : List (Nat × Nat) :=
  [(45, 45), (183, 183), (697, 698), (710, 719), (748, 748), (885, 885), (8204, 8205),
   (11823, 11823), (12539, 12539), (42623, 42623), (42775, 42783), (42888, 42888)]

/-- Marks that take no room but are read like letters. -/
def letterLikeMarks : List Nat := [3263, 3270, 72199, 72200, 72767]

/-- Letters of names that came after Unicode 14, up to Unicode 18, with the places that are kept for
more letters between them. -/
def newerRanges : List (Nat × Nat) :=
  [(1480, 1481), (2191, 2191), (2199, 2199), (2899, 2900), (3164, 3164), (3292, 3292), (3315, 3315),
   (3790, 3790), (6863, 6896), (7306, 7306), (8335, 8335), (8349, 8351), (42957, 42957),
   (42959, 42959), (42971, 42971), (67008, 67059), (67904, 67929), (68928, 68943), (68969, 68973),
   (68975, 68997), (69314, 69319), (69337, 69375), (70207, 70209), (70528, 70537), (70539, 70539),
   (70542, 70542), (70544, 70581), (70583, 70592), (70594, 70594), (70597, 70597), (70599, 70602),
   (70604, 70611), (70625, 70626), (71376, 71395), (72458, 72458), (72544, 72551), (72640, 72672),
   (72688, 72697), (73136, 73179), (73184, 73193), (73200, 73201), (73472, 73488), (73490, 73530),
   (73534, 73538), (73552, 73562), (78895, 78895), (78912, 78933), (78944, 82938), (90368, 90425),
   (93504, 93548), (93552, 93561), (93883, 93907), (94194, 94195), (100344, 100351),
   (101590, 101594), (101631, 101631), (101641, 102866), (110883, 110888), (110898, 110898),
   (110933, 110933), (110952, 110952), (118599, 118607), (119376, 119425), (122655, 122879),
   (123023, 123023), (124112, 124153), (124368, 124410), (124608, 124638), (124640, 124661),
   (124670, 124671), (177977, 177983), (178206, 178206), (183970, 183981), (191472, 192093),
   (201552, 210041), (249856, 261183)]

/-- Whether a letter of names is newer than the tables. -/
def isNewer (c : CodePoint) : Bool := within newerRanges c

/-- The direction of a character. -/
def direction (c : CodePoint) : Direction :=
  if within rightToLeftRanges c then .rightToLeft
  else if within arabicNumberRanges c then .arabicNumber
  else if within europeanNumberRanges c then .europeanNumber
  else if within neutralRanges c then .neutral
  else if isNonspacing c && !letterLikeMarks.contains c then .mark
  else if isNewer c then .unknown
  else .leftToRight

/-- Why characters cannot be read one way. Positions count from 1. -/
inductive DirectionError where
  | unknown (position : Nat)
  | first
  | inRightToLeft (position : Nat)
  | inLeftToRight (position : Nat)
  | mixedNumbers
  | last
deriving DecidableEq, Repr

/-- Whether a character has to be read to the left. -/
def Direction.isLeftward (d : Direction) : Bool :=
  d = .rightToLeft || d = .arabicNumber

/-- Reads characters to the left from a position on: none is read to the right, and there is one
kind of digits. -/
def readLeft (position : Nat) (number : Option Direction) :
    List Direction → Except DirectionError Unit
  | [] => .ok ()
  | d :: ds =>
    if d = .leftToRight then .error (.inRightToLeft position)
    else if d = .arabicNumber || d = .europeanNumber then
      if number.isSome && number ≠ some d then .error .mixedNumbers
      else readLeft (position + 1) (some d) ds
    else readLeft (position + 1) number ds

/-- Reads characters to the right from a position on. -/
def readRight (position : Nat) : List Direction → Except DirectionError Unit
  | [] => .ok ()
  | d :: ds =>
    if d.isLeftward then .error (.inLeftToRight position) else readRight (position + 1) ds

/-- Whether the last character that is no mark is a letter or a digit. -/
def endsWell (ds : List Direction) : Bool :=
  (ds.filter (· ≠ .mark)).getLast? ≠ some .neutral

/-- Reads characters one way. Every direction has to be known. Where none has to be read to the left
there is nothing else to check; otherwise the first says which way it is. -/
def readOneWay (ds : List Direction) : Except DirectionError Unit :=
  match ds.findIdx? (· = .unknown) with
  | some i => .error (.unknown (i + 1))
  | none =>
    if !ds.any Direction.isLeftward then .ok ()
    else
      match ds.head? with
      | some .rightToLeft =>
        match readLeft 1 none ds with
        | .error e => .error e
        | .ok _ => if endsWell ds then .ok () else .error .last
      | some .leftToRight => readRight 1 ds
      | _ => .error .first

end Waypost.Text
