import Waypost.Json.Value
import Waypost.Message.Cookie
import Waypost.Message.Headers
import Waypost.Message.Query

/-!
# Requests

What a server says about a request is a `Scope`, in which parts may be missing; `Request.ofScope`
checks it and reads the query and the cookies.
-/

namespace Waypost

open Codec

/-- The two ends of a connection as the server names them. -/
abbrev Address := Option (List Json)

/-- What a server says about a request. -/
structure Scope where
  kind : Option String := none
  method : Option String := none
  path : Option String := none
  headers : Headers := {}
  query : Bytes := []
  httpVersion : String := "1.1"
  server : Address := none
  client : Address := none
deriving Inhabited

/-- A part that a scope must have and has not. -/
structure MissingPart where
  part : String
deriving DecidableEq, Repr

/-- A request. -/
structure Request where
  method : String
  path : String
  headers : Headers := {}
  query : Query := {}
  pathParams : List (String × String) := []
  httpVersion : String := "1.1"
  server : Address := none
  client : Address := none
  cookies : List (String × String) := []
deriving Inhabited

namespace Request

/-- The request that a scope describes. -/
def ofScope (s : Scope) (pathParams : List (String × String)) : Except MissingPart Request :=
  match s.method, s.path with
  | none, _ => .error ⟨"method"⟩
  | some _, none => .error ⟨"path"⟩
  | some method, some path =>
    .ok
      { method, path, headers := s.headers, query := .ofBytes s.query, pathParams
        httpVersion := s.httpVersion, server := s.server, client := s.client
        cookies := parseCookies ((s.headers.first? "cookie").getD "") }

/-- The path with the query string. -/
def url (r : Request) : String :=
  if r.query.raw.isEmpty then r.path else r.path ++ "?" ++ decodeLatin1 r.query.raw

/-- The type of the body. -/
def contentType? (r : Request) : Option String :=
  r.headers.first? "content-type"

/-- The request with the parameters that a route has bound. -/
def withPathParams (r : Request) (params : List (String × String)) : Request :=
  { r with pathParams := params }

end Request

end Waypost
