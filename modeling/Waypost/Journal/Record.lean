import Waypost.Fault.Kind

/-!
# Log records

Components report what they do as records of a named logger; a threshold decides which of them are
kept.
-/

namespace Waypost

/-- How serious a record is. -/
inductive Severity where
  | debug
  | info
  | warning
  | error
  | critical
deriving DecidableEq, Repr, Inhabited

/-- The name of a severity. -/
def Severity.name : Severity → String
  | .debug => "DEBUG"
  | .info => "INFO"
  | .warning => "WARNING"
  | .error => "ERROR"
  | .critical => "CRITICAL"

/-- The rank of a severity among all thresholds. -/
def Severity.rank : Severity → Nat
  | .debug => 10
  | .info => 20
  | .warning => 30
  | .error => 40
  | .critical => 50

/-- The part of the program that reports. -/
inductive Logger where
  | routing
  | auth
  | security
  | server
  | client
deriving DecidableEq, Repr

/-- The name of a logger. -/
def Logger.name : Logger → String
  | .routing => "flare.routing"
  | .auth => "flare.auth"
  | .security => "flare.security"
  | .server => "flare.server"
  | .client => "flare.client"

/-- One report; `fault` is the kind of failure it is about. -/
structure LogRecord where
  severity : Severity
  logger : Logger
  message : String
  fault : Option Fault.Kind := none
deriving DecidableEq, Repr

/-- The thresholds by name. Two of them have a second name; the one that sets nothing leaves the
threshold of warnings. -/
def thresholds : List (String × Nat) :=
  [("CRITICAL", 50), ("FATAL", 50), ("ERROR", 40), ("WARN", 30), ("WARNING", 30), ("INFO", 20),
    ("DEBUG", 10), ("NOTSET", 30)]

end Waypost
