import Waypost.Json.Printer
import Waypost.Reply.Value

/-!
# Values as JSON documents

Lists and tuples become arrays and dictionaries objects. Keys that are numbers, truth values or
nothing become their JSON texts, keys of other kinds are errors. Everything else that JSON does not
have is written as its plain text.
-/

namespace Waypost

/-- A dictionary key that JSON does not have. -/
structure KeyKind where
  kind : String
deriving DecidableEq, Repr

/-- The wording of the error. -/
def KeyKind.message (e : KeyKind) : String :=
  "keys must be str, int, float, bool or None, not " ++ e.kind

namespace Value

/-- The text of a key. -/
def keyText : Value → Except KeyKind String
  | .text s => .ok s
  | .none => .ok "null"
  | .bool b => .ok (if b then "true" else "false")
  | .int n => .ok (toString n)
  | .level l => .ok (toString l.rank)
  | .float x => .ok (Json.renderFloat x)
  | v => .error ⟨v.fullKind⟩

mutual

/-- The JSON document of a value. -/
def toJson : Value → Except KeyKind Json
  | .none => .ok .null
  | .bool b => .ok (.bool b)
  | .int n => .ok (.int n)
  | .level l => .ok (.int l.rank)
  | .float x => .ok (.float x)
  | .text s => .ok (.text s)
  | .list xs =>
    match toItems xs with
    | .error e => .error e
    | .ok js => .ok (.array js)
  | .tuple xs =>
    match toItems xs with
    | .error e => .error e
    | .ok js => .ok (.array js)
  | .dict ps =>
    match toMembers ps with
    | .error e => .error e
    | .ok ms => .ok (.object ms)
  | v => .ok (.text v.toText)

/-- The items of an array. -/
def toItems : List Value → Except KeyKind (List Json)
  | [] => .ok []
  | x :: xs =>
    match x.toJson with
    | .error e => .error e
    | .ok j =>
      match toItems xs with
      | .error e => .error e
      | .ok js => .ok (j :: js)

/-- The members of an object. -/
def toMembers : List (Value × Value) → Except KeyKind (List (String × Json))
  | [] => .ok []
  | (k, v) :: ps =>
    match k.keyText with
    | .error e => .error e
    | .ok key =>
      match v.toJson with
      | .error e => .error e
      | .ok j =>
        match toMembers ps with
        | .error e => .error e
        | .ok ms => .ok ((key, j) :: ms)

end

/-- The text of the document. -/
def document (v : Value) : Except KeyKind String :=
  match v.toJson with
  | .error e => .error e
  | .ok j => .ok (j.render .wide)

end Value

end Waypost
