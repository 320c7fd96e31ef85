import Waypost.Reply.Document

/-!
# From values to responses

A response stays as it is, texts and bytes become the body, lists and dictionaries a JSON document,
and nothing at all an empty response. A pair or triple changes the status, and the headers, of what
its first item becomes.
-/

namespace Waypost

/-- Why a value does not become a response. -/
inductive ReplyError where
  | noResponse (kind : String)
  | key (error : KeyKind)
deriving DecidableEq, Repr

/-- The wording of the error. -/
def ReplyError.message : ReplyError → String
  | .noResponse kind =>
    "Cannot convert " ++ kind
      ++ " to a response. Return str, bytes, dict, list, Response, or a (value, status) tuple."
  | .key e => e.message

namespace Value

/-- The status that a value is. -/
def status? : Value → Option Status
  | .int n => some (.code n)
  | .bool b => some (.truth b)
  | .level l => some (.code l.rank)
  | _ => Option.none

/-- The headers that a dictionary is. -/
def headers? : Value → Option (List (Field × Field))
  | .dict ps => some (ps.map fun p => (p.1.toField, p.2.toField))
  | _ => Option.none

/-- The response with a JSON document. -/
def jsonResponse (v : Value) : Except ReplyError Response :=
  match v.document with
  | .error e => .error (.key e)
  | .ok s => .ok { body := .text s, contentType := "application/json; charset=utf-8" }

/-- The response that a value becomes. -/
def toResponse : Value → Except ReplyError Response
  | .response r => .ok r
  | .text s => .ok { body := .text s }
  | .bytes bs => .ok { body := .bytes bs, contentType := "application/octet-stream" }
  | .list xs => jsonResponse (.list xs)
  | .dict ps => jsonResponse (.dict ps)
  | .none => .ok { body := .text "", status := 204 }
  | .tuple [inner, second] =>
    match second.status? with
    | Option.none => .error (.noResponse "tuple")
    | some status =>
      match toResponse inner with
      | .error e => .error e
      | .ok r => .ok (r.withStatus status)
  | .tuple [inner, second, third] =>
    match second.status?, third.headers? with
    | some status, some hs =>
      match toResponse inner with
      | .error e => .error e
      | .ok r => .ok ((r.withStatus status).withHeaders hs)
    | _, _ => .error (.noResponse "tuple")
  | v => .error (.noResponse v.kind)

end Value

end Waypost
