import Waypost.Access.Level
import Waypost.Message.Response
import Waypost.Time.Calendar

/-!
# What handlers return

A handler returns a value of any of these kinds. `Value.shown` is how messages show a value and
`Value.toText` is its plain text. Dictionaries keep the order of their keys; numbers that are equal
are one key, whatever their kind, and the first of them stays.
-/

namespace Waypost

open Text

/-- A value that a handler returns. -/
inductive Value where
  | none
  | bool (b : Bool)
  | int (n : Int)
  | float (x : Number.Binary64)
  | level (l : Access.Level)
  | text (s : String)
  | bytes (bs : Bytes)
  | time (t : Time.ZonedTime)
  | list (items : List Value)
  | tuple (items : List Value)
  | dict (items : List (Value × Value))
  | response (r : Response)
  /-- A thing of which nothing is known but its text. -/
  | opaqueThing
deriving Inhabited

/-- Items between brackets; a single item of a tuple is followed by a comma. -/
def showTuple : List String → String
  | [x] => "(" ++ x ++ ",)"
  | xs => "(" ++ ", ".intercalate xs ++ ")"

/-- A cookie as messages show it. -/
def SetCookie.shown (c : SetCookie) : String :=
  "SetCookie(name=" ++ quote c.name ++ ", value=" ++ quote c.value
    ++ ", max_age=" ++ (c.maxAge.map toString).getD "None" ++ ", path=" ++ quote c.path
    ++ ", domain=" ++ (c.domain.map quote).getD "None" ++ ", secure=" ++ showBool c.secure
    ++ ", httponly=" ++ showBool c.httpOnly ++ ", samesite=" ++ quote c.sameSite ++ ")"

/-- A text or bytes as messages show them. -/
def Payload.shown : Payload → String
  | .text s => quote s
  | .bytes bs => quoteBytes bs

/-- A response as messages show it. -/
def Response.shown (r : Response) : String :=
  "Response(body=" ++ r.body.shown ++ ", status=" ++ r.status.shown
    ++ ", content_type=" ++ quote r.contentType
    ++ ", headers=" ++ showTuple (r.headers.map fun h => showTuple [h.1.shown, h.2.shown])
    ++ ", cookies=" ++ showTuple (r.cookies.map SetCookie.shown) ++ ")"

namespace Value

/-- The name of a value's kind. -/
def kind : Value → String
  | .none => "NoneType"
  | .bool _ => "bool"
  | .int _ => "int"
  | .float _ => "float"
  | .level _ => "AuthLevel"
  | .text _ => "str"
  | .bytes _ => "bytes"
  | .time .. => "datetime"
  | .list _ => "list"
  | .tuple _ => "tuple"
  | .dict _ => "dict"
  | .response _ => "Response"
  | .opaqueThing => "Opaque"

/-- The name of a value's kind in messages about what it lacks and about keys. -/
def fullKind : Value → String
  | .time .. => "datetime.datetime"
  | v => v.kind

mutual

/-- A value as messages show it. -/
def shown : Value → String
  | .none => "None"
  | .bool b => showBool b
  | .int n => toString n
  | .float x => x.render
  | .level l => "<AuthLevel." ++ l.name ++ ": " ++ toString l.rank ++ ">"
  | .text s => quote s
  | .bytes bs => quoteBytes bs
  | .time t => t.display
  | .list xs => "[" ++ ", ".intercalate (shownAll xs) ++ "]"
  | .tuple xs => showTuple (shownAll xs)
  | .dict ps => "\x7b" ++ ", ".intercalate (shownPairs ps) ++ "\x7d"
  | .response r => r.shown
  | .opaqueThing => "opaque!"

/-- Values as messages show them. -/
def shownAll : List Value → List String
  | [] => []
  | x :: xs => x.shown :: shownAll xs

/-- Keys and values as messages show them. -/
def shownPairs : List (Value × Value) → List String
  | [] => []
  | (k, v) :: ps => (k.shown ++ ": " ++ v.shown) :: shownPairs ps

end

/-- A value as a plain text. -/
def toText : Value → String
  | .text s => s
  | .level l => toString l.rank
  | v => v.shown

/-- The number that a value is. -/
inductive Numeric where
  | int (n : Int)
  | float (x : Number.Binary64)

@[inherit_doc Numeric]
def numeric? : Value → Option Numeric
  | .bool b => some (.int (if b then 1 else 0))
  | .int n => some (.int n)
  | .level l => some (.int l.rank)
  | .float x =>
    match x.toInt? with
    | some n => some (.int n)
    | Option.none => some (.float x)
  | _ => Option.none

/-- Whether two numbers are equal. A float that equals an integer is given as that integer. -/
def Numeric.same : Numeric → Numeric → Bool
  | .int n, .int m => n = m
  | .float x, .float y => x.sameNumber y
  | _, _ => false

mutual

/-- Whether two values are one key of a dictionary. -/
def sameKey : Value → Value → Bool
  | .none, .none => true
  | .text s, .text t => s = t
  | .bytes bs, .bytes cs => bs = cs
  | .time t, .time u => t.instant = u.instant
  | .tuple xs, .tuple ys => sameKeys xs ys
  | a, b =>
    match a.numeric?, b.numeric? with
    | some x, some y => x.same y
    | _, _ => false

/-- Whether the values of two lists are the same keys in order. -/
def sameKeys : List Value → List Value → Bool
  | [], [] => true
  | x :: xs, y :: ys => x.sameKey y && sameKeys xs ys
  | _, _ => false

end

mutual

/-- The kind of value that keeps a value from being a key. -/
def unhashable? : Value → Option String
  | .list _ => some "list"
  | .dict _ => some "dict"
  | .tuple xs => unhashableAmong? xs
  | .response r => (r.headers.flatMap fun h => [h.1, h.2]).findSome? Field.unhashable?
  | _ => Option.none

/-- The first kind of value that keeps one of some values from being a key. -/
def unhashableAmong? : List Value → Option String
  | [] => Option.none
  | x :: xs =>
    match x.unhashable? with
    | some k => some k
    | Option.none => unhashableAmong? xs

end

/-- Gives a key a value in a dictionary. -/
def putKey (k v : Value) : List (Value × Value) → List (Value × Value)
  | [] => [(k, v)]
  | (k', v') :: rest => if k'.sameKey k then (k', v) :: rest else (k', v') :: putKey k v rest

/-- A key that cannot be one. -/
structure Unhashable where
  kind : String
deriving DecidableEq, Repr

/-- The wording of the error. -/
def Unhashable.message (e : Unhashable) : String :=
  "unhashable type: '" ++ e.kind ++ "'"

/-- Gives a key a value in a dictionary, if it can be a key. -/
def enter (items : List (Value × Value)) (k v : Value) : Except Unhashable (List (Value × Value)) :=
  match k.unhashable? with
  | some kind => .error ⟨kind⟩
  | Option.none => .ok (putKey k v items)

mutual

/-- The value of a JSON document. -/
def ofJson : Json → Value
  | .null => .none
  | .bool b => .bool b
  | .int n => .int n
  | .float x => .float x
  | .text s => .text s
  | .array xs => .list (ofItems xs)
  | .object ms => .dict (ofMembers ms)

/-- The values of the items of an array. -/
def ofItems : List Json → List Value
  | [] => []
  | x :: xs => ofJson x :: ofItems xs

/-- The keys and values of the members of an object. -/
def ofMembers : List (String × Json) → List (Value × Value)
  | [] => []
  | (k, v) :: ms => (.text k, ofJson v) :: ofMembers ms

end

/-- A float where answers need one. -/
def floatJson (x : Number.Binary64) : Json :=
  .object [("float", .text x.render)]

mutual

/-- A value as it is written out where a header holds it. -/
def plainJson : Value → Json
  | .none => .null
  | .bool b => .bool b
  | .int n => .int n
  | .float x => floatJson x
  | .level l => .int l.rank
  | .bytes bs => .text (Codec.decodeLatin1 bs)
  | .list xs => .array (plainItems xs)
  | .tuple xs => .array (plainItems xs)
  | .dict ps => .object (plainMembers ps)
  | v => .text v.toText

/-- Values as they are written out. -/
def plainItems : List Value → List Json
  | [] => []
  | x :: xs => plainJson x :: plainItems xs

/-- Keys and values as they are written out, each key as its text. -/
def plainMembers : List (Value × Value) → List (String × Json)
  | [] => []
  | (k, v) :: ps => (k.toText, plainJson v) :: plainMembers ps

end

/-- A value in the place of a header's name or value. -/
def toField : Value → Field
  | .text s => .text s
  | .bytes bs => .bytes bs
  | v => .foreign ⟨v.fullKind, v.shown, v.plainJson⟩

end Value

end Waypost
