import Waypost.Text.Blank
import Waypost.Text.Case
import Waypost.Text.Quoted

/-!
# Access levels

Three levels in increasing order. A session may reach what requires its own level or a lower one.
-/

namespace Waypost.Access

open Text

/-- What a visitor may reach. -/
inductive Level where
  | anonymous
  | authenticated
  | elevated
deriving DecidableEq, Repr, Inhabited

namespace Level

/-- The levels in increasing order. -/
def all : List Level := [.anonymous, .authenticated, .elevated]

/-- The place of a level in the order. -/
def rank : Level → Nat
  | .anonymous => 0
  | .authenticated => 1
  | .elevated => 2

instance : LE Level := ⟨fun a b => a.rank ≤ b.rank⟩

instance (a b : Level) : Decidable (a ≤ b) := inferInstanceAs (Decidable (a.rank ≤ b.rank))

/-- The name of a level in capitals. -/
def name : Level → String
  | .anonymous => "ANONYMOUS"
  | .authenticated => "AUTHENTICATED"
  | .elevated => "ELEVATED"

/-- The name of a level in small letters. -/
def label : Level → String
  | .anonymous => "anonymous"
  | .authenticated => "authenticated"
  | .elevated => "elevated"

/-- The level with a given name in capitals. -/
def ofName? (s : String) : Option Level :=
  all.find? fun l => l.name == s

/-- A text that names no level. -/
structure Unknown where
  text : String
deriving DecidableEq, Repr

/-- The wording of the error. -/
def Unknown.message (e : Unknown) : String :=
  "Unknown auth level " ++ quote e.text ++ ". Expected one of: "
    ++ ", ".intercalate (all.map Level.label)

/-- Reads the name of a level, in letters of either case and with blanks around it. -/
def parse (s : String) : Except Unknown Level :=
  match ofName? (upper (strip s)) with
  | some l => .ok l
  | none => .error ⟨s⟩

end Level

end Waypost.Access
