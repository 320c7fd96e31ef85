import Waypost.Codec.Bytes
import Waypost.Json.Value

/-!
# Reports

A report is the JSON view of a value, for those who watch the program. Pairs and lists become
arrays, bytes become the text of their Latin-1 characters, and a float becomes an object with its
shortest text, so that nothing is lost on the way.
-/

namespace Waypost

/-- Values that have a JSON view. -/
class Report (α : Type) where
  report : α → Json

export Report (report)

namespace Json

mutual

/-- A document with its floats as objects. -/
def withFloatTexts : Json → Json
  | .float x => .object [("float", .text x.render)]
  | .array xs => .array (itemsWithFloatTexts xs)
  | .object ms => .object (membersWithFloatTexts ms)
  | v => v

/-- The items of an array with their floats as objects. -/
def itemsWithFloatTexts : List Json → List Json
  | [] => []
  | x :: xs => x.withFloatTexts :: itemsWithFloatTexts xs

/-- The members of an object with their floats as objects. -/
def membersWithFloatTexts : List (String × Json) → List (String × Json)
  | [] => []
  | (k, v) :: ms => (k, v.withFloatTexts) :: membersWithFloatTexts ms

end

end Json

instance : Report Json := ⟨Json.withFloatTexts⟩

instance : Report String := ⟨Json.text⟩

instance : Report Int := ⟨Json.int⟩

instance : Report Nat := ⟨fun n => .int n⟩

instance : Report Bool := ⟨Json.bool⟩

instance : Report Unit := ⟨fun _ => .null⟩

instance {α : Type} [Report α] : Report (Option α) :=
  ⟨fun
    | none => .null
    | some a => report a⟩

instance {α β : Type} [Report α] [Report β] : Report (α × β) :=
  ⟨fun p => .array [report p.1, report p.2]⟩

instance {α : Type} [Report α] : Report (List α) := ⟨fun xs => .array (xs.map report)⟩

instance : Report Bytes := ⟨fun bs => .text (Codec.decodeLatin1 bs)⟩

/-- A mapping as an object. -/
def reportMembers {α : Type} [Report α] (ps : List (String × α)) : Json :=
  .object (ps.map fun p => (p.1, report p.2))

end Waypost
