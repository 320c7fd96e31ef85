import Waypost.Time.Zone

/-!
# Calendar dates

The proleptic Gregorian calendar: days since the start of 1970 and dates, in both directions, and
the clock time of an instant.
-/

namespace Waypost.Time

/-- Whether a year has a 29th of February. -/
def isLeap (y : Int) : Bool :=
  y % 4 = 0 && (y % 100 ≠ 0 || y % 400 = 0)

/-- The number of days of a month. -/
def daysInMonth (y : Int) (m : Nat) : Nat :=
  if m = 2 then (if isLeap y then 29 else 28)
  else if m = 4 || m = 6 || m = 9 || m = 11 then 30
  else 31

/-- The days from the start of 1970 to a date. Years are counted from March, so that the leap day
comes last. -/
def daysOfDate (y : Int) (m d : Nat) : Int :=
  let y := if m ≤ 2 then y - 1 else y
  let era := y / 400
  let yoe := y - era * 400
  let mp : Int := (m + 9) % 12
  let doy := (153 * mp + 2) / 5 + d - 1
  let doe := yoe * 365 + yoe / 4 - yoe / 100 + doy
  era * 146097 + doe - 719468

/-- A date and a time of day. -/
structure Moment where
  year : Int
  month : Nat
  day : Nat
  hour : Nat
  minute : Nat
  second : Nat
  micros : Nat
  /-- Days from Monday. -/
  weekday : Nat
deriving DecidableEq, Repr

/-- The date a number of days after the start of 1970. -/
def dateOfDays (z : Int) : Int × Nat × Nat :=
  let z := z + 719468
  let era := z / 146097
  let doe := z - era * 146097
  let yoe := (doe - doe / 1460 + doe / 36524 - doe / 146096) / 365
  let doy := doe - (365 * yoe + yoe / 4 - yoe / 100)
  let mp := (5 * doy + 2) / 153
  let d := doy - (153 * mp + 2) / 5 + 1
  let m := if mp < 10 then mp + 3 else mp - 9
  let y := yoe + era * 400
  (if m ≤ 2 then y + 1 else y, m.toNat, d.toNat)

/-- The date and time of an instant in UTC. -/
def momentOf (t : Instant) : Moment :=
  let days := t / dayMicros
  let rest := (t - days * dayMicros).toNat
  let (y, m, d) := dateOfDays days
  { year := y, month := m, day := d
    hour := rest / 3600000000, minute := rest / 60000000 % 60, second := rest / 1000000 % 60
    micros := rest % 1000000, weekday := ((days + 3) % 7).toNat }

/-- The instant of a date and time in UTC. -/
def instantOf (y : Int) (m d hour minute second : Nat) : Instant :=
  daysOfDate y m d * dayMicros + (hour * 3600 + minute * 60 + second : Nat) * 1000000

/-- A number in at least `width` digits. -/
def padded (width n : Nat) : String :=
  let s := toString n
  String.ofList (List.replicate (width - s.length) '0') ++ s

/-- A time as the clocks of its zone show it. -/
def ZonedTime.display (t : ZonedTime) : String :=
  let offset := t.offset.minutes
  let m := momentOf (t.instant + t.offset.duration)
  let micros := if m.micros = 0 then "" else "." ++ padded 6 m.micros
  padded 4 m.year.toNat ++ "-" ++ padded 2 m.month ++ "-" ++ padded 2 m.day ++ " " ++
    padded 2 m.hour ++ ":"
    ++ padded 2 m.minute ++ ":" ++ padded 2 m.second ++ micros ++ (if offset < 0 then "-" else "+")
    ++ padded 2 (offset.natAbs / 60) ++ ":" ++ padded 2 (offset.natAbs % 60)

end Waypost.Time
