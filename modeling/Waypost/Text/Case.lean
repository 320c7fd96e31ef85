import Waypost.Text.CaseTable
import Waypost.Text.Ranges

/-!
# Upper and lower case

Full letter-case mappings: one character may become several, and a capital sigma at the end of a
word becomes `ς`. `lowerAscii` is the mapping that touches the letters A to Z only.
-/

namespace Waypost.Text

/-- The code point a table of runs sends `n` to. -/
def shiftInRuns (runs : List CaseRun) (n : Nat) : Nat :=
  match runs.find? fun r => r.1 ≤ n && n ≤ r.2.1 && (n - r.1) % r.2.2.1 == 0 with
  | some r => ((n : Int) + r.2.2.2).toNat
  | none => n

/-- The characters one character is mapped to. -/
def mapCase (special : List (Nat × List Nat)) (runs : List CaseRun) (c : Char) : List Char :=
  match special.lookup c.toNat with
  | some ns => ns.map Char.ofNat
  | none => [Char.ofNat (shiftInRuns runs c.toNat)]

/-- The upper case of a character. -/
def upperChar (c : Char) : List Char :=
  if c.toNat < 128 then [c.toUpper] else mapCase upperSpecial upperRuns c

/-- The lower case of a character that stands alone. -/
def lowerChar (c : Char) : List Char :=
  if c.toNat < 128 then [c.toLower] else mapCase lowerSpecial lowerRuns c

/-- Whether the first character that is not skipped is a letter with case. -/
def casedNext (cs : List Char) : Bool :=
  match cs.find? fun c => !within caseIgnorableRanges c.toNat with
  | some c => within casedRanges c.toNat
  | none => false

/-- The lower case of a text, `before` being the characters before it, the nearest first. -/
def lowerFrom (before : List Char) : List Char → List Char
  | [] => []
  | c :: cs =>
    if c = 'Σ' then
      (if casedNext before && !casedNext cs then 'ς' else 'σ') :: lowerFrom (c :: before) cs
    else lowerChar c ++ lowerFrom (c :: before) cs

/-- The upper case of a text. -/
def upper (s : String) : String :=
  String.ofList (s.toList.flatMap upperChar)

/-- The lower case of a text. -/
def lower (s : String) : String :=
  String.ofList (lowerFrom [] s.toList)

/-- The lower case of a byte, for the letters A to Z only. -/
def lowerByte (b : UInt8) : UInt8 :=
  if 65 ≤ b && b ≤ 90 then b + 32 else b

end Waypost.Text
