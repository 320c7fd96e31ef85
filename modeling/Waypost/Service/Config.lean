import Waypost.Access.Credentials

/-!
# Configuration

What an application may be told when it is made.
-/

namespace Waypost.Service

/-- The configuration of an application. -/
structure Config where
  debug : Bool := false
  /-- A secret that is not empty turns on signed tokens. -/
  secretKey : String := ""
  sessionCookie : String := "SESSION_ID"
  tokenHeader : String := "X-Flare-Token"
  sessionTtl : Time.Duration := Time.week
  logLevel : String := "info"
deriving DecidableEq, Repr, Inhabited

namespace Config

/-- Where requests carry their sessions. -/
def credentials (c : Config) : Access.Credentials where
  tokenHeader := c.tokenHeader
  cookieName := c.sessionCookie
  signer := (Access.Signer.ofSecret c.secretKey).toOption

/-- The threshold of the journal. -/
def threshold (c : Config) : Except SetupError Nat :=
  let name := Text.upper c.logLevel
  match thresholds.lookup name with
  | some n => .ok n
  | none => .error (.unknownThreshold name)

end Config

end Waypost.Service
