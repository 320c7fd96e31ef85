import Waypost.Text.Blank
import Waypost.Text.Case
import Waypost.Text.Pieces
import Waypost.Time.MailDate

/-!
# Dates in cookies

Dates such as `Thu, 01 Jan 2026 00:00:00 GMT`. Servers write them in many ways, so `LooseDate.read`
takes most of them: the day of the week, the time and the zone may be missing, months may be
numbers, and years may have two digits. What is no date, or is before 1970, says nothing.
-/

namespace Waypost.Time.LooseDate

open Text

/-- A month of a date in the strict form that there is not. -/
structure UnknownMonth where
deriving DecidableEq, Repr

/-- The parts of a date as they are written. -/
structure Parts where
  day : List Char
  month : List Char
  year : List Char
  hour : List Char := []
  minute : List Char := []
  second : List Char := []
  zone : Option (List Char) := none
deriving DecidableEq, Repr

/-- A blank of ASCII. -/
def isGap (c : Char) : Bool :=
  c = ' ' || (9 ≤ c.toNat && c.toNat ≤ 13)

/-- What a month is written with. -/
def isWordChar (c : Char) : Bool :=
  c.isAlphanum || c = '_'

/-- The number that digits stand for. -/
def digitsValue (cs : List Char) : Nat :=
  cs.foldl (fun n c => n * 10 + (c.toNat - 48)) 0

/-- The number of a month that goes by its name. -/
def monthByName? (name : List Char) : Option Nat :=
  ((monthNames.map fun m => lower m).findIdx? (· = lower (String.ofList name))).map (· + 1)

/-! ## The strict form -/

/-- The parts of a date in the strict form. -/
def strict? (cs : List Char) : Option Parts :=
  match cs with
  | [w₁, w₂, w₃, ',', ' ', d₁, d₂, ' ', m₁, m₂, m₃, ' ', y₁, y₂, y₃, y₄, ' ', a, b, ':', c, d, ':',
      e, f, ' ', 'G', 'M', 'T'] =>
    if ("SMTWF".toList.contains w₁ && [w₂, w₃, m₂, m₃].all Char.isLower &&
      "JFMASOND".toList.contains m₁
        && [d₁, d₂, y₁, y₂, y₃, y₄, a, b, c, d, e, f].all Char.isDigit) = true then
      some ⟨[d₁, d₂], [m₁, m₂, m₃], [y₁, y₂, y₃, y₄], [a, b], [c, d], [e, f], none⟩
    else none
  | _ => none

/-! ## The loose form -/

/-- The text without the day of the week at its beginning. -/
def dropWeekday (cs : List Char) : List Char :=
  if (dayNames.map lower).contains (lower (String.ofList (cs.take 3))) && cs.length ≥ 3 then
    match (cs.drop 3).dropWhile Char.isAlpha with
    | ',' :: rest => rest.dropWhile isGap
    | rest => rest.dropWhile isGap
  else cs

/-- What follows the mark between two parts: blanks, a hyphen or a slash. -/
def afterMark? : List Char → Option (List Char)
  | [] => none
  | c :: cs =>
    if isGap c then some (cs.dropWhile isGap) else if c = '-' || c = '/' then some cs else none

/-- Hours, minutes and seconds, and what follows them; the seconds may be missing. -/
def clock? (cs : List Char) : Option (List Char × List Char × List Char × List Char) :=
  let start? :=
    match cs with
    | [] => none
    | c :: rest =>
      if isGap c then some (rest.dropWhile isGap) else if c = ':' then some rest else none
  match start? with
  | none => none
  | some cs =>
    match cs.span Char.isDigit with
    | (hour, ':' :: a :: b :: rest) =>
      if (hour.length = 1 || hour.length = 2) && a.isDigit && b.isDigit then
        match rest with
        | ':' :: c :: d :: rest' =>
          if c.isDigit && d.isDigit then some (hour, [a, b], [c, d], rest')
          else some (hour, [a, b], [], rest)
        | _ => some (hour, [a, b], [], rest)
      else none
    | _ => none

/-- Whether a text begins with a half of the day instead of a zone. -/
def isHalfDay : List Char → Bool
  | a :: m :: rest =>
    "APap".toList.contains a && "Mm".toList.contains m && !rest.head?.any isWordChar
  | _ => false

/-- The zone at the beginning of a text, and what follows it. -/
def splitZone? (cs : List Char) : Option (List Char) × List Char :=
  let (sign, unsigned) :=
    match cs with
    | c :: rest => if c = '-' || c = '+' then ([c], rest) else ([], cs)
    | [] => ([], [])
  let (digits, rest) := unsigned.span Char.isDigit
  let (letters, rest') := cs.span Char.isAlpha
  if 2 ≤ digits.length && digits.length ≤ 4 then (some (sign ++ digits), rest)
  else if !letters.isEmpty && !isHalfDay cs then (some letters, rest')
  else (none, cs)

/-- Whether nothing but a remark in brackets stands at the end of a text. -/
def isRemark (cs : List Char) : Bool :=
  match cs.dropWhile isGap with
  | [] => true
  | '(' :: rest =>
    match rest.span isWordChar with
    | (_ :: _, ')' :: after) => after.all isGap
    | _ => false
  | _ => false

/-- The parts of a date in the loose form. -/
def loose? (cs : List Char) : Option Parts := do
  let (day, rest) := cs.span Char.isDigit
  guard (day.length = 1 || day.length = 2)
  let (month, rest) := (← afterMark? rest).span isWordChar
  guard (!month.isEmpty)
  let (year, rest) := (← afterMark? rest).span Char.isDigit
  guard (!year.isEmpty)
  let (hour, minute, second, rest) := (clock? rest).getD ([], [], [], rest)
  let (zone, rest) := splitZone? (rest.dropWhile isGap)
  guard (isRemark rest)
  return { day, month, year, hour, minute, second, zone }

/-! ## Instants -/

/-- The number of a month: by its name, or as it stands. -/
def monthNumber? (month : List Char) : Option Nat :=
  (monthByName? month).or (if month.all Char.isDigit && 1 ≤ digitsValue month &&
    digitsValue month ≤ 12 then some (digitsValue month) else none)

/-- The year that is meant by a short one: the nearest to the present that ends like it. -/
def fullYear (present year : Int) : Int :=
  if 1000 ≤ year then year
  else
    let near := year + present - present % 100
    let gap := present % 100 - year
    if 50 < gap then near + 100 else if gap < -50 then near - 100 else near

/-- The seconds by which a zone is ahead. -/
def zoneOffset? (zone : List Char) : Option Int :=
  let (sign, digits) :=
    match zone with
    | '-' :: ds => ((-1 : Int), ds)
    | '+' :: ds => (1, ds)
    | ds => (1, ds)
  if digits.all Char.isDigit then
    let hours := if digits.length = 2 then digits else digits.take (digits.length - 2)
    let minutes := digits.drop hours.length
    some (sign * (3600 * digitsValue hours + 60 * digitsValue minutes))
  else if ["GMT", "UTC", "UT", "Z"].contains (upper (String.ofList zone)) then some 0
  else none

/-- The seconds from the start of 1970 to a date of the calendar, if it is not before. -/
def seconds? (year : Int) (month : Nat) (p : Parts) : Option Int :=
  let (day, hour, minute, second) :=
    (digitsValue p.day, digitsValue p.hour, digitsValue p.minute, digitsValue p.second)
  if 1970 ≤ year && 1 ≤ day && day ≤ 31 && hour ≤ 24 && minute ≤ 59 && second ≤ 61 then
    some ((daysOfDate year month 1 + day - 1) * 86400 + hour * 3600 + minute * 60 + second)
  else none

/-- The seconds from the start of 1970 to the date in a text, if it is one. The present is needed
for years of two digits. -/
def read (present : Instant) (s : String) : Except UnknownMonth (Option Int) :=
  match strict? s.toList with
  | some p =>
    match monthByName? p.month with
    | none => .error ⟨⟩
    | some month => .ok (seconds? (digitsValue p.year) month p)
  | none => .ok do
    let p ← loose? (dropWeekday (stripLeft s.toList))
    let year := digitsValue p.year
    guard (year ≤ 9999)
    let month ← monthNumber? p.month
    let t ← seconds? (fullYear (momentOf present).year year) month p
    let offset ← zoneOffset? (p.zone.getD "UTC".toList)
    return t - offset

end Waypost.Time.LooseDate
