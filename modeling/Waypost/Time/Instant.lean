/-!
# Instants and durations

An instant counts microseconds since the start of 1970 in UTC and lies in the years 1 to 9999; a
duration is a number of microseconds of at most `maxDays` days. Sums that leave these ranges are
errors.
-/

namespace Waypost.Time

/-- Microseconds since the start of 1970 in UTC. -/
abbrev Instant := Int

/-- A number of microseconds. -/
abbrev Duration := Int

/-- The first instant of the year 1. -/
def firstInstant : Instant := -62135596800000000

/-- The last instant of the year 9999. -/
def lastInstant : Instant := 253402300799999999

/-- The largest number of whole days in a duration. -/
def maxDays : Int := 999999999

/-- The microseconds of a day. -/
def dayMicros : Int := 86400000000

/-- Results that are out of range. -/
inductive RangeError where
  | date
  | days (n : Int)
  | tooWide
deriving DecidableEq, Repr

/-- The wording of the error. -/
def RangeError.message : RangeError → String
  | .date => "date value out of range"
  | .days n => "days=" ++ toString n ++ "; must have magnitude <= " ++ toString maxDays
  | .tooWide => "Python int too large to convert to C int"

/-- A duration of `n` microseconds. -/
def Duration.ofMicros (n : Int) : Except RangeError Duration :=
  let days := n.fdiv dayMicros
  if days < -2147483648 || 2147483647 < days then .error .tooWide
  else if days < -maxDays || maxDays < days then .error (.days days)
  else .ok n

/-- A duration of `n` seconds. -/
def Duration.ofSeconds (n : Int) : Except RangeError Duration :=
  Duration.ofMicros (n * 1000000)

/-- The instant a duration later. -/
def Instant.add (t : Instant) (d : Duration) : Except RangeError Instant :=
  let u : Int := t + d
  if firstInstant ≤ u && u ≤ lastInstant then .ok u else .error .date

/-- The instant `n` microseconds after the start of 1970. -/
def Instant.ofMicros (n : Int) : Except RangeError Instant :=
  match Duration.ofMicros n with
  | .error e => .error e
  | .ok d => Instant.add 0 d

/-- Seven days. -/
def week : Duration := 7 * dayMicros

/-- The seconds of seven days. -/
def weekSeconds : Int := 604800

end Waypost.Time
