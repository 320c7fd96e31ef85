import Waypost.Access.Level
import Waypost.Journal.Record
import Waypost.Route.Pattern

/-!
# Route entries

An entry says which handler serves a method on the paths of a pattern, and the level that is needed.
-/

namespace Waypost.Route

/-- The methods an entry may have. -/
def methods : List String :=
  ["GET", "HEAD", "POST", "PUT", "PATCH", "DELETE", "OPTIONS", "TRACE", "CONNECT"]

/-- A registered route. -/
structure Entry where
  method : String
  pattern : Pattern
  handlerId : String
  level : Access.Level := .anonymous
  label : Option String := none
deriving DecidableEq, Repr

/-- What two entries of one table must not share. -/
def Entry.slot (e : Entry) : String × List SegmentShape :=
  (e.method, e.pattern.shape)

/-- The report of a registration. -/
def Entry.registered (e : Entry) : LogRecord where
  severity := .debug
  logger := .routing
  message := "Registered " ++ e.method ++ " " ++ e.pattern.text ++ " -> " ++ e.handlerId

end Waypost.Route
