import Waypost.Number.Integer
import Waypost.Text.Case
import Waypost.Text.Pieces
import Waypost.Time.Calendar

/-!
# Dates in headers

Dates such as `Mon, 01 Jan 2024 00:00:00 +0000`. `formatMailDate` writes them; `parseMailDate` reads
them with the liberties that senders take: the day of the week may be missing, day and month may
change places, hyphens or points may stand between parts, and years may have two digits. A date
without a zone, or with the zone `-0000`, has no fixed instant.
-/

namespace Waypost.Time

open Text Number

/-- The days of the week, from Monday. -/
def dayNames : List String := ["Mon", "Tue", "Wed", "Thu", "Fri", "Sat", "Sun"]

/-- The months. -/
def monthNames : List String :=
  ["Jan", "Feb", "Mar", "Apr", "May", "Jun", "Jul", "Aug", "Sep", "Oct", "Nov", "Dec"]

/-- The months in full, in small letters. -/
def longMonthNames : List String :=
  ["january", "february", "march", "april", "may", "june", "july", "august", "september",
   "october", "november", "december"]

/-- Zones that go by a name, as hours and minutes in one number. -/
def namedZones : List (String × Int) :=
  [("UT", 0), ("UTC", 0), ("GMT", 0), ("Z", 0), ("AST", -400), ("ADT", -300), ("EST", -500),
   ("EDT", -400), ("CST", -600), ("CDT", -500), ("MST", -700), ("MDT", -600), ("PST", -800),
   ("PDT", -700)]

/-- An instant as a date in UTC. -/
def formatMailDate (t : Instant) : String :=
  let m := momentOf t
  dayNames.getD m.weekday "" ++ ", " ++ padded 2 m.day ++ " " ++
    monthNames.getD (m.month - 1) "" ++ " "
    ++ padded 4 m.year.toNat ++ " " ++ padded 2 m.hour ++ ":" ++ padded 2 m.minute ++ ":" ++
      padded 2 m.second ++ " +0000"

/-- The parts of a date that does name a day, with the zone in seconds if it has one. -/
structure RawDate where
  year : Int
  month : Nat
  day : Int
  hour : Int
  minute : Int
  second : Int
  zone : Option Int
deriving DecidableEq, Repr

/-- The words of a text between blanks. -/
def words (cs : List Char) : List String :=
  let (word, done) := cs.foldr (fun c (acc : List Char × List String) =>
    if isBlank c then ([], if acc.1.isEmpty then acc.2 else String.ofList acc.1 :: acc.2)
    else (c :: acc.1, acc.2)) ([], [])
  if word.isEmpty then done else String.ofList word :: done

/-- The words without the day of the week. -/
def dropDayName : List String → List String
  | [] => []
  | w :: ws =>
    if w.toList.getLast? = some ',' || (dayNames.map lower).contains (lower w) then ws
    else
      match cutLast? ',' w with
      | some (_, after) => after :: ws
      | none => w :: ws

/-- Day, month and year apart if hyphens join them. -/
def splitHyphens : List String → List String
  | [a, b, c] =>
    match split '-' a with
    | [x, y, z] => [x, y, z, b, c]
    | _ => [a, b, c]
  | ws => ws

/-- The time and the zone apart if a sign joins them. -/
def splitZone : List String → List String
  | [a, b, c, s] =>
    let cs := s.toList
    let sign := if cs.contains '+' then '+' else '-'
    match cutChars? sign cs with
    | some (t, z) =>
      if t.isEmpty then [a, b, c, s, ""] else [a, b, c, String.ofList t, String.ofList (sign :: z)]
    | none => [a, b, c, s, ""]
  | ws => ws

/-- A word without a comma at its end. -/
def dropComma (w : String) : String :=
  if w.toList.getLast? = some ',' then String.ofList w.toList.dropLast else w

/-- The number of a month by its short or full name in small letters. -/
def monthNumber? (w : String) : Option Nat :=
  match (monthNames.map lower).idxOf? w with
  | some i => some (i + 1)
  | none => (longMonthNames.idxOf? w).map (· + 1)

/-- The hour, minute and second of a time of day. -/
def timeParts? (tm : String) : Option (String × String × String) :=
  match split ':' tm with
  | [h, m] => some (h, m, "0")
  | [h, m, s] => some (h, m, s)
  | [one] =>
    match split '.' one with
    | [h, m] => some (h, m, "0")
    | [h, m, s] => some (h, m, s)
    | _ => none
  | _ => none

/-- An integer, or nothing. -/
def integer? (w : String) : Option Int :=
  (readInteger w).toOption

/-- The zone in seconds. -/
def zoneSeconds? (tz : String) : Option Int :=
  let tz := upper tz
  let value? :=
    match namedZones.lookup tz with
    | some v => some v
    | none =>
      match integer? tz with
      | some v => if v = 0 && tz.toList.head? = some '-' then none else some v
      | none => none
  value?.map fun v =>
    let seconds : Int := (v.natAbs / 100 * 3600 + v.natAbs % 100 * 60 : Nat)
    if v < 0 then -seconds else seconds

/-- A year, of which two digits may be missing. -/
def fullYear (y : Int) : Int :=
  if y < 100 then (if y > 68 then y + 1900 else y + 2000) else y

/-- Whether a word starts with a digit. -/
def startsWithDigit (w : String) : Bool :=
  match w.toList with
  | c :: _ => isAnyDigit c
  | [] => false

/-- Reads the five parts of a date. -/
def readFive? (dd mm yy tm tz : String) : Option RawDate := do
  if dd.isEmpty || mm.isEmpty || yy.isEmpty then none
  let (dd, month) ←
    match monthNumber? (lower mm) with
    | some m => some (dd, m)
    | none => (monthNumber? (lower dd)).map fun m => (lower mm, m)
  let dd := dropComma dd
  let swap := match cut? ':' yy with
    | some (before, _) => !before.isEmpty
    | none => false
  let (yy, tm) := if swap then (tm, yy) else (yy, tm)
  let yy := dropComma yy
  if yy.isEmpty then none
  let (yy, tz) := if startsWithDigit yy then (yy, tz) else (tz, yy)
  let (hh, mi, ss) ← timeParts? (dropComma tm)
  let year ← integer? yy
  let day ← integer? dd
  let hour ← integer? hh
  let minute ← integer? mi
  let second ← integer? ss
  return ⟨fullYear year, month, day, hour, minute, second, zoneSeconds? tz⟩

/-- Reads a date into its parts. -/
def readMailDate? (s : String) : Option RawDate :=
  match splitZone (splitHyphens (dropDayName (words s.toList))) with
  | dd :: mm :: yy :: tm :: tz :: _ => readFive? dd mm yy tm tz
  | _ => none

/-- Why a text is not a date. -/
inductive DateError where
  | malformed (text : String)
  | field (what : String)
  | offset (seconds : Int)
  | range (error : RangeError)
  | tooWide (what : String)
deriving DecidableEq, Repr

/-- A duration of whole seconds by its parts. -/
def secondsShown (n : Int) : String :=
  let days := n.fdiv 86400
  let rest := n - days * 86400
  let parts := (if days = 0 then [] else ["days=" ++ toString days])
    ++ (if rest = 0 then [] else ["seconds=" ++ toString rest])
  "datetime.timedelta(" ++ (if parts.isEmpty then "0" else ", ".intercalate parts) ++ ")"

/-- The wording of the error. -/
def DateError.message : DateError → String
  | .malformed text => "Invalid date value or format \"" ++ text ++ "\""
  | .field what => what
  | .offset n =>
    "offset must be a timedelta strictly between -timedelta(hours=24) and timedelta(hours=24), not "
      ++ secondsShown n ++ "."
  | .range e => e.message
  | .tooWide what => what

/-- An instant, or a date and time whose zone is unknown. -/
inductive Stamp where
  | fixed (t : Instant)
  | floating (t : Instant)
deriving DecidableEq, Repr

/-- Whether the numbers of a date fit into machine words. -/
def RawDate.checkWidth (r : RawDate) : Except DateError Unit :=
  match [r.year, r.month, r.day, r.hour, r.minute, r.second].find? fun n => n < -2147483648 ||
    2147483647 < n with
  | none => .ok ()
  | some n =>
    .error <| .tooWide <|
      if n < -9223372036854775808 || 9223372036854775807 < n then
        "Python int too large to convert to C long"
      else if n < 0 then "signed integer is less than minimum"
      else "signed integer is greater than maximum"

/-- The instant of a date that exists. -/
def RawDate.resolve (r : RawDate) : Except DateError Stamp := do
  match r.zone with
  | some z =>
    match Duration.ofSeconds z with
    | .error e => throw (.range e)
    | .ok _ => if z ≤ -86400 || 86400 ≤ z then throw (.offset z)
  | none => pure ()
  r.checkWidth
  if r.year < 1 || 9999 < r.year then
    throw (.field ("year " ++ toString r.year ++ " is out of range"))
  if r.day < 1 || (daysInMonth r.year r.month : Int) < r.day then
    throw (.field "day is out of range for month")
  if r.hour < 0 || 23 < r.hour then throw (.field "hour must be in 0..23")
  if r.minute < 0 || 59 < r.minute then throw (.field "minute must be in 0..59")
  if r.second < 0 || 59 < r.second then throw (.field "second must be in 0..59")
  let t := instantOf r.year r.month r.day.toNat r.hour.toNat r.minute.toNat r.second.toNat
  return match r.zone with
    | some z => .fixed (t - z * 1000000)
    | none => .floating t

/-- Reads a date. -/
def parseMailDate (s : String) : Except DateError Stamp :=
  match readMailDate? s with
  | none => .error (.malformed s)
  | some r => r.resolve

end Waypost.Time
