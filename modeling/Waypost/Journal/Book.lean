import Waypost.Journal.Record
import Waypost.Json.Value

/-!
# The journal

Security events go to a sink, if one is installed; a sink that fails is logged and otherwise
ignored. `Journal` collects what was delivered and the log records at or above a threshold.
-/

namespace Waypost

/-- A security event. What it says of the request and the user is null where nothing is known. -/
structure SecurityEvent where
  name : String
  method : Json := .null
  path : Json := .null
  userId : Json := .null
  details : Json := .object []
deriving Inhabited

/-- The event as it is delivered: details that say nothing are an empty object. -/
def SecurityEvent.settled (e : SecurityEvent) : SecurityEvent :=
  if e.details.isSubstantial then e else { e with details := .object [] }

/-- Where security events go: nowhere, or to a receiver that may fail on some of them, by what they
say and by how many it has got before. -/
inductive Sink where
  | none
  | receiver (fails : Nat → SecurityEvent → Option Fault.Kind)

/-- A receiver that takes every event. -/
def Sink.recording : Sink := .receiver fun _ _ => Option.none

/-- A receiver that fails on every event. -/
def Sink.failing : Sink := .receiver fun _ _ => some .runtime

/-- What the receiver got: an event, or one it failed on. -/
inductive Delivery where
  | received (event : SecurityEvent)
  | failed

/-- What has been reported. -/
structure Journal where
  sink : Sink := .none
  /-- Records below this rank are dropped. -/
  threshold : Nat := 10
  deliveries : List Delivery := []
  records : List LogRecord := []

namespace Journal

/-- Adds a record, if it is serious enough. -/
def log (j : Journal) (r : LogRecord) : Journal :=
  if j.threshold ≤ r.severity.rank then { j with records := j.records ++ [r] } else j

/-- Adds records in order. -/
def logAll (j : Journal) (rs : List LogRecord) : Journal :=
  rs.foldl log j

/-- Delivers a security event. -/
def emit (j : Journal) (e : SecurityEvent) : Journal :=
  match j.sink with
  | .none => j
  | .receiver fails =>
    match fails j.deliveries.length e.settled with
    | none => { j with deliveries := j.deliveries ++ [.received e.settled] }
    | some kind =>
      let j : Journal := { j with deliveries := j.deliveries ++ [Delivery.failed] }
      j.log ⟨.error, .security, "Security event sink failed for " ++ e.name, some kind⟩

/-- The same journal with nothing in it. -/
def cleared (j : Journal) : Journal :=
  { j with deliveries := [], records := [] }

end Journal

end Waypost
