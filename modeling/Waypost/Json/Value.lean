import Waypost.Keyed
import Waypost.Number.Binary64

/-!
# JSON values

Integers are exact, other numbers are values of the 64-bit binary format, and the members of an
object keep their order.
-/

namespace Waypost

/-- A JSON value. -/
inductive Json where
  | null
  | bool (b : Bool)
  | int (n : Int)
  | float (x : Number.Binary64)
  | text (s : String)
  | array (items : List Json)
  | object (members : List (String × Json))
deriving Inhabited, Repr

namespace Json

/-- The member of an object under a key. -/
def get? (key : String) : Json → Option Json
  | .object ms => Keyed.get? key ms
  | _ => none

/-- The text a value is. -/
def asText? : Json → Option String
  | .text s => some s
  | _ => none

/-- The integer a value is. -/
def asInt? : Json → Option Int
  | .int n => some n
  | _ => none

/-- The truth value a value is. -/
def asBool? : Json → Option Bool
  | .bool b => some b
  | _ => none

/-- The items of an array; no items for another value. -/
def items : Json → List Json
  | .array xs => xs
  | _ => []

/-- The members of an object; no members for another value. -/
def members : Json → List (String × Json)
  | .object ms => ms
  | _ => []

/-- A text, or null where there is none. -/
def ofText? : Option String → Json
  | none => .null
  | some s => .text s

/-- Whether a value has something to it: it is not null, false, zero or empty. -/
def isSubstantial : Json → Bool
  | .null => false
  | .bool b => b
  | .int n => n ≠ 0
  | .float x => !x.isZero
  | .text s => !s.isEmpty
  | .array items => !items.isEmpty
  | .object members => !members.isEmpty

/-- Whether a value is null. -/
def isNull : Json → Bool
  | .null => true
  | _ => false

end Json

end Waypost
