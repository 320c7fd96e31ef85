import Waypost.Time.Instant

/-!
# Zones

The clocks of a zone are ahead of UTC by an offset of less than a day. A `ZonedTime` is an instant
together with the zone whose clocks show it, and the date they show lies in the years 1 to 9999 too.
-/

namespace Waypost.Time

/-- How many minutes the clocks of a zone are ahead of UTC. -/
structure Offset where
  minutes : Int
  above : -1440 < minutes
  below : minutes < 1440
deriving DecidableEq, Repr

/-- The offset of UTC itself. -/
def Offset.zero : Offset := ⟨0, by omega, by omega⟩

instance : Inhabited Offset := ⟨.zero⟩

/-- Why there is no such time in a zone. -/
inductive ZoneError where
  | range (error : RangeError)
  | offset (minutes : Int)
deriving DecidableEq, Repr

/-- A number of minutes in whole days and the seconds of the last one. -/
def showMinutes (minutes : Int) : String :=
  let days := minutes.fdiv 1440
  let seconds := (minutes - days * 1440) * 60
  "datetime.timedelta(days=" ++ toString days ++
    (if seconds = 0 then "" else ", seconds=" ++ toString seconds) ++ ")"

/-- The wording of the error. -/
def ZoneError.message : ZoneError → String
  | .range e => e.message
  | .offset minutes =>
    "offset must be a timedelta strictly between -timedelta(hours=24) and timedelta(hours=24), not "
      ++ showMinutes minutes ++ "."

/-- The offset of a number of minutes. -/
def Offset.ofMinutes (minutes : Int) : Except ZoneError Offset :=
  match Duration.ofMicros (minutes * 60000000) with
  | .error e => .error (.range e)
  | .ok _ =>
    if h : -1440 < minutes ∧ minutes < 1440 then .ok ⟨minutes, h.1, h.2⟩
    else .error (.offset minutes)

/-- The offset as a duration. -/
def Offset.duration (o : Offset) : Duration := o.minutes * 60000000

/-- An instant and the zone whose clocks show it. -/
structure ZonedTime where
  instant : Instant
  offset : Offset
deriving DecidableEq, Repr, Inhabited

/-- The instant a number of microseconds after the start of 1970, on the clocks of a zone a number
of minutes ahead of UTC. -/
def ZonedTime.ofMicros (micros minutes : Int) : Except ZoneError ZonedTime :=
  match Offset.ofMinutes minutes with
  | .error e => .error e
  | .ok o =>
    match Instant.ofMicros micros with
    | .error e => .error (.range e)
    | .ok t =>
      match t.add o.duration with
      | .error e => .error (.range e)
      | .ok _ => .ok ⟨t, o⟩

end Waypost.Time
