import Waypost.Access.Level
import Waypost.Time.Instant

/-!
# Sessions and the guard

A session is a credential with a level and an end. The guard decides what a credential may reach;
one that has ended counts for nothing.
-/

namespace Waypost.Access

open Time

/-- An issued credential. -/
structure Session where
  token : String
  level : Level
  expiresAt : Instant
  userId : String := ""
deriving DecidableEq, Repr, Inhabited

/-- Whether a session has ended. -/
def Session.isExpired (s : Session) (now : Instant) : Bool :=
  s.expiresAt ≤ now

/-- What the guard says. -/
inductive Verdict where
  | allowed
  | unauthenticated
  | insufficientLevel
deriving DecidableEq, Repr

/-- The name of a verdict. -/
def Verdict.name : Verdict → String
  | .allowed => "allowed"
  | .unauthenticated => "unauthenticated"
  | .insufficientLevel => "insufficient_level"

/-- The session that a credential is worth: nothing once it has ended. -/
def live? (credential : Option Session) (now : Instant) : Option Session :=
  credential.filter fun s => !s.isExpired now

/-- Whether a credential may reach what requires a level. -/
def guard (required : Level) (credential : Option Session) (now : Instant) : Verdict :=
  if required = .anonymous then .allowed
  else
    match live? credential now with
    | none => .unauthenticated
    | some s => if required ≤ s.level then .allowed else .insufficientLevel

theorem guard_anonymous (c : Option Session) (now : Instant) :
    guard .anonymous c now = .allowed := rfl

theorem guard_live? (l : Level) (c : Option Session) (now : Instant) :
    guard l (live? c now) now = guard l c now := by
  cases c with
  | none => rfl
  | some s =>
    by_cases h : s.isExpired now <;> simp [guard, live?, h, Option.filter]

end Waypost.Access
