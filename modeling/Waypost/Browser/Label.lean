import Waypost.Codec.Punycode
import Waypost.Text.Composition
import Waypost.Text.Direction
import Waypost.Text.Hex
import Waypost.Text.Joining
import Waypost.Text.NameLetter
import Waypost.Text.Quoted
import Waypost.Text.Script

/-!
# Labels of host names

A host name is a row of labels. A label is composed text of small letters, digits and hyphens that
is read one way; some signs may stand in it only next to certain letters. `asciiName?` is the form
in which a name is sent, which has only ASCII characters, and `plainName` reads that form or says
what is wrong with it. What such a form spells need not be a text, so a label is a list of code
points.
-/

namespace Waypost.Browser

open Codec Text

/-- What is wrong with a host name. Positions count from 1. -/
inductive LabelError where
  | empty
  | tooLong
  | nameTooLong
  | notComposed
  | hyphensInside
  | hyphenAtEnd
  | markFirst
  | joiner (c : CodePoint) (position : Nat) (label : List CodePoint)
  | nextToJoiner (c : CodePoint) (position : Nat) (label : List CodePoint)
  | sign (c : CodePoint) (position : Nat) (label : List CodePoint)
  | letter (c : CodePoint) (position : Nat) (label : List CodePoint)
  | direction (error : DirectionError) (label : List CodePoint)
  | formEmpty
  | formHyphen
  | formUnreadable
  | formNotCanonical
deriving DecidableEq, Repr

/-- A code point in at least four digits. -/
def showPoint (c : CodePoint) : String :=
  let width := if c < 0x10000 then 4 else if c < 0x100000 then 5 else 6
  "U+" ++ String.ofList ((hexDigits width c).map Char.toUpper)

/-- The wording of the error. -/
def LabelError.message : LabelError → String
  | .empty => "Empty Label"
  | .tooLong => "Label too long"
  | .nameTooLong => "Domain too long"
  | .notComposed => "Label must be in Normalization Form C"
  | .hyphensInside => "Label has disallowed hyphens in 3rd and 4th position"
  | .hyphenAtEnd => "Label must not start or end with a hyphen"
  | .markFirst => "Label begins with an illegal combining character"
  | .joiner c n label =>
    "Joiner " ++ showPoint c ++ " not allowed at position " ++ toString n ++ " in " ++
      quotePoints label
  | .nextToJoiner c n label =>
    "Unknown codepoint adjacent to joiner " ++ showPoint c ++ " at position " ++ toString n ++
      " in " ++ quotePoints label
  | .sign c n label =>
    "Codepoint " ++ showPoint c ++ " not allowed at position " ++ toString n ++ " in " ++
      quotePoints label
  | .letter c n label =>
    "Codepoint " ++ showPoint c ++ " at position " ++ toString n ++ " of " ++ quotePoints label ++
      " not allowed"
  | .direction (.unknown n) label =>
    "Unknown directionality in label " ++ quotePoints label ++ " at position " ++ toString n
  | .direction .first label =>
    "First codepoint in label " ++ quotePoints label ++ " must be directionality L, R or AL"
  | .direction (.inRightToLeft n) _ =>
    "Invalid direction for codepoint at position " ++ toString n ++ " in a right-to-left label"
  | .direction (.inLeftToRight n) _ =>
    "Invalid direction for codepoint at position " ++ toString n ++ " in a left-to-right label"
  | .direction .mixedNumbers _ => "Can not mix numeral types in a right-to-left label"
  | .direction .last _ => "Label ends with illegal codepoint directionality"
  | .formEmpty => "Malformed A-label, no Punycode eligible content found"
  | .formHyphen => "A-label must not end with a hyphen"
  | .formUnreadable => "Invalid A-label"
  | .formNotCanonical => "A-label is not the canonical Punycode encoding of its U-label"

namespace Label

/-! ## Signs that need their neighbours -/

/-- The digits of one Arabic kind. -/
def isArabicDigit (c : CodePoint) : Bool := 0x660 ≤ c && c ≤ 0x669

/-- The digits of the other Arabic kind. -/
def isPersianDigit (c : CodePoint) : Bool := 0x6F0 ≤ c && c ≤ 0x6F9

/-- The hyphen. -/
def hyphen : CodePoint := 0x2D

/-- The sign that keeps letters apart. -/
def nonJoiner : CodePoint := 0x200C

/-- The sign that joins letters. -/
def joiner : CodePoint := 0x200D

/-- Whether a mark that cuts a vowel off ends a text, which is given backwards. -/
def endsInVirama (before : List CodePoint) : Bool :=
  (before.head?.map combiningClass) = some viramaClass

/-- Letters that go by a number and have no name. -/
def numberedRanges : List (Nat × Nat) := [(0x17000, 0x187F7), (0x18D00, 0x18D08)]

/-- Whether a letter has a name that is known. -/
def isNamed (c : CodePoint) : Bool := !isNewer c && !within numberedRanges c

/-- Checks a sign for joining between what is before it, given backwards, and what is after it. What
comes right before it has to be known by name. -/
def checkJoiner (label before : List CodePoint) (c : CodePoint) (after : List CodePoint) :
    Except LabelError Unit :=
  let position := before.length + 1
  if !before.head?.all isNamed then .error (.nextToJoiner c position label)
  else if endsInVirama before || (c = nonJoiner && joinAcross before after) then .ok ()
  else .error (.joiner c position label)

/-- Whether a sign may stand in a label between what is before it, given backwards, and what is
after it. Letters are no such signs. -/
def signStands? (label before : List CodePoint) (c : CodePoint) (after : List CodePoint) :
    Option Bool :=
  match c with
  | 0xB7 => some (before.head? = some 0x6C && after.head? = some 0x6C)
  | 0x375 => some ((after.head?.map isGreek).getD false)
  | 0x5F3 | 0x5F4 => some ((before.head?.map isHebrew).getD false)
  | 0x30FB => some (label.any isJapanese)
  | _ =>
    if isArabicDigit c then some (!label.any isPersianDigit)
    else if isPersianDigit c then some (!label.any isArabicDigit)
    else none

/-! ## Labels -/

/-- Checks one character of a label. -/
def checkCharacter (label before : List CodePoint) (c : CodePoint) (after : List CodePoint) :
    Except LabelError Unit :=
  let position := before.length + 1
  if c = nonJoiner || c = joiner then checkJoiner label before c after
  else
    match signStands? label before c after with
    | some stands => if stands then .ok () else .error (.sign c position label)
    | none => if isNameLetter c || isNewer c then .ok () else .error (.letter c position label)

/-- Checks the characters of a label from a place on. -/
def checkCharacters (label before : List CodePoint) : List CodePoint → Except LabelError Unit
  | [] => .ok ()
  | c :: cs =>
    match checkCharacter label before c cs with
    | .error e => .error e
    | .ok _ => checkCharacters label (c :: before) cs

/-- The largest number of characters of a name, with a point at its end. -/
def maxNameLength : Nat := 254

/-- Checks a label. -/
def check (label : List CodePoint) : Except LabelError Unit := do
  if label.isEmpty then throw .empty
  if maxNameLength < label.length then throw .tooLong
  if !isComposed label then throw .notComposed
  if (label.drop 2).take 2 = [hyphen, hyphen] then throw .hyphensInside
  if label.head? = some hyphen || label.getLast? = some hyphen then throw .hyphenAtEnd
  if (label.head?.map isMark).getD false then throw .markFirst
  checkCharacters label [] label
  match readOneWay (label.map direction) with
  | .error e => throw (.direction e label)
  | .ok _ => return ()

/-! ## ASCII forms -/

/-- What marks a label that is written in ASCII. -/
def asciiMark : List Char := ['x', 'n', '-', '-']

/-- The label that an ASCII text is or is the ASCII form of. A label has one such form. -/
def plain (label : List Char) : Except LabelError (List CodePoint) := do
  let points ←
    if asciiMark.isPrefixOf label then do
      let rest := label.drop asciiMark.length
      if rest.isEmpty then throw .formEmpty
      if rest.getLast? = some '-' then throw .formHyphen
      match Punycode.decode rest with
      | none => throw .formUnreadable
      | some points =>
        if Punycode.encode points = rest then pure points else throw .formNotCanonical
    else pure (label.map Char.toNat)
  check points
  return points

/-- The largest number of characters of a label in ASCII. -/
def maxLength : Nat := 63

/-- A label in ASCII. -/
def ascii? (label : List Char) : Option (List Char) :=
  let (checked, form) :=
    if label.all fun c => c.toNat < 128 then ((plain label).map fun _ => (), label)
    else
      let points := label.map Char.toNat
      (check points, asciiMark ++ Punycode.encode points)
  match checked with
  | .error _ => none
  | .ok _ => if form.length ≤ maxLength then some form else none

/-- The marks that divide a name into labels. -/
def isDivider (c : Char) : Bool :=
  c = '.' || c = '。' || c = '．' || c = '｡'

/-- The labels of a name, and the point at its end. -/
def labelsOf (name : List Char) : List (List Char) × List Char :=
  let labels := splitChars '.' (name.map fun c => if isDivider c then '.' else c)
  if labels.getLast? = some [] then (labels.dropLast, ['.']) else (labels, [])

/-- A name in ASCII. -/
def asciiName? (name : List Char) : Option (List Char) :=
  let (labels, final) := labelsOf name
  match labels.mapM ascii? with
  | none => none
  | some forms =>
    let joined := joinChars '.' forms
    if labels.isEmpty || maxNameLength ≤ joined.length then none else some (joined ++ final)

/-- The name that an ASCII text stands for, if it begins like the ASCII form of one that is not.
Large letters count as small ones. -/
def plainName (name : List Char) : Except LabelError (List Char) :=
  if !asciiMark.isPrefixOf name then .ok name
  else if maxNameLength < name.length then .error .nameTooLong
  else
    let (labels, final) := labelsOf (name.map Char.toLower)
    match labels.mapM plain with
    | .error e => .error e
    | .ok points => .ok (joinChars '.' (points.map fun label => label.map Char.ofNat) ++ final)

end Label

end Waypost.Browser
