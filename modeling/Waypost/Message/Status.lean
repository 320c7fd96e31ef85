/-!
# Statuses

The status of a response is a number. Application code may give a truth value for it, which counts
as 1 or 0 and is shown as what it is.
-/

namespace Waypost

/-- The status of a response or of a failure. -/
inductive Status where
  | code (n : Int)
  | truth (b : Bool)
deriving DecidableEq, Repr

instance : Coe Int Status := ⟨Status.code⟩

instance (n : Nat) : OfNat Status n := ⟨.code n⟩

instance : Inhabited Status := ⟨200⟩

/-- A truth value as messages show it. -/
def showBool (b : Bool) : String :=
  if b then "True" else "False"

namespace Status

/-- The number that a status counts as. -/
def value : Status → Int
  | .code n => n
  | .truth b => if b then 1 else 0

/-- A status as messages show it. -/
def shown : Status → String
  | .code n => toString n
  | .truth b => showBool b

end Status

end Waypost
