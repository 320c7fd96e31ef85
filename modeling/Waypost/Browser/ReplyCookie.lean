import Waypost.Browser.Redirect
import Waypost.Browser.Reply
import Waypost.Time.LooseDate

/-!
# Cookies in replies

A reply can ask the browser to keep cookies, one in each header for it. A cookie says in its
attributes for which servers it is meant and until when it is to be kept.
`ServerReply.leavesCookies` says whether the browser keeps one of them.
-/

namespace Waypost.Browser

open Text Number

/-- A cookie as a reply asks for it. -/
structure ReplyCookie where
  version : String := "0"
  domain : Option String := none
  ports : Option String := none
  /-- Seconds from the start of 1970. -/
  expires : Option Int := none
  /-- The attributes that are settled. Of an attribute that comes again, the first counts. -/
  settled : List String := []
deriving DecidableEq, Repr, Inhabited

/-- Why a cookie is not kept: it is at fault itself, or no cookie of the reply can be read. -/
inductive CookieRefusal where
  | cookie
  | reply
deriving DecidableEq, Repr

namespace ReplyCookie

/-! ## Reading -/

/-- An attribute and its value, if it has one. -/
def readAttribute (s : String) : String × Option String :=
  match cut? '=' (strip s) with
  | none => (strip s, none)
  | some (key, value) => (strip key, some (strip value))

/-- The attributes of a cookie, after the cookie itself. A cookie without a name is none. -/
def attributes? (header : String) : Option (List (String × Option String)) :=
  match (split ';' header).map readAttribute with
  | [] => none
  | (name, _) :: rest =>
    if name.isEmpty then none else some ((rest.filter fun a => !a.1.isEmpty).map fun a =>
      (lower a.1, a.2))

/-- A text without the quotes around it. -/
def unquoted (s : String) : String :=
  let cs := s.toList
  let cs := if cs.head? = some '"' then cs.tail else cs
  String.ofList (if cs.getLast? = some '"' then cs.dropLast else cs)

/-- The attributes with a value, and those that may come without one. -/
def knownAttributes : List String :=
  ["version", "domain", "path", "port", "comment", "commenturl", "discard", "secure"]

/-- The attributes that may come without a value. -/
def bareAttributes : List String :=
  ["port", "comment", "commenturl", "discard", "secure"]

/-- Settles one attribute of a cookie. The age of a cookie counts from the present, and before a
date. -/
def settle (now : Int) (c : ReplyCookie) (key : String) (value : Option String)
    (date : Option Int) : Except CookieRefusal ReplyCookie :=
  if key = "max-age" then
    match value with
    | none => .error .reply
    | some v =>
      match readInteger v with
      | .error _ => .error .cookie
      | .ok n => .ok { c with expires := some (now + n), settled := "expires" :: c.settled }
  else if c.settled.contains key then .ok c
  else if key = "expires" then
    match date with
    | none => .ok c
    | some t => .ok { c with expires := some t, settled := key :: c.settled }
  else if !knownAttributes.contains key then .ok c
  else if value = none && !bareAttributes.contains key then .error .cookie
  else
    let c := { c with settled := key :: c.settled }
    match key, value with
    | "version", some v => .ok { c with version := unquoted v }
    | "domain", some v => .ok { c with domain := some (lower v) }
    | "port", some v => .ok { c with ports := some v }
    | _, _ => .ok c

/-- Settles attributes in order, each given with the date that its value is. -/
def settleAll (now : Int) (c : ReplyCookie) :
    List (String × Option String × Option Int) → Except CookieRefusal ReplyCookie
  | [] => .ok c
  | (key, value, date) :: rest =>
    match c.settle now key value date with
    | .error e => .error e
    | .ok c => c.settleAll now rest

/-- The attributes with their dates. -/
def datedAll (present : Time.Instant) :
    List (String × Option String) →
      Except Time.LooseDate.UnknownMonth (List (String × Option String × Option Int))
  | [] => .ok []
  | (key, value) :: rest => do
    let date ←
      match key, value with
      | "expires", some v => Time.LooseDate.read present (unquoted v)
      | _, _ => pure none
    return (key, value, date) :: (← datedAll present rest)

/-! ## Keeping -/

/-- The ending that makes a name of one word a name of a server nearby. -/
def nearby : String := ".local"

/-- Whether a text ends with another. -/
def endsWith (s tail : String) : Bool :=
  tail.toList.reverse.isPrefixOf s.toList.reverse

/-- Whether a cookie of a domain can come from a server. Domains have a point inside, but for
servers nearby. -/
def domainFits (host domain : String) (version : Int) : Bool :=
  let host := if host.toList.contains '.' then host else host ++ nearby
  let bare := if domain.toList.head? = some '.' then String.ofList domain.toList.tail else domain
  let dotted := "." ++ bare
  (bare.toList.contains '.' || endsWith host nearby)
    && (version ≠ 0 || endsWith host dotted || endsWith host (bare ++ nearby) ||
      host.toList.head? = some '.'
      || endsWith ("." ++ host) dotted)

/-- Whether a port is among some: all those before it have to be numbers. -/
def portAmong (port : String) : List String → Bool
  | [] => false
  | p :: ps => (readInteger p).toOption.isSome && (p = port || portAmong port ps)

/-- The server of an URL without its port, with the user. -/
def hostOf (authority : String) : String :=
  match cutLast? ':' authority with
  | some (host, port) =>
    lower (if !port.isEmpty && port.toList.all Char.isDigit then host else authority)
  | none => lower authority

/-- The port of an URL, as cookies see it. -/
def portOf (authority : String) : String :=
  match cut? ':' (Url.plain authority) with
  | some (_, port) => if (readInteger port).toOption.isSome then port else "80"
  | none => "80"

/-- A number that has no counterpart among the floats. -/
def isBeyondFloats (n : Int) : Bool :=
  (Nat.pow 2 1024 - Nat.pow 2 970 : Nat) ≤ n.natAbs

/-- Whether a cookie is kept that came from a server. One that has ended is not, and one of a
version above 1 is not. -/
def isKept (c : ReplyCookie) (authority : String) (now : Int) : Except CookieRefusal Bool :=
  match readInteger c.version with
  | .error _ => .ok false
  | .ok version =>
    if c.expires.any (· ≤ now) then .ok false
    else if c.expires.any isBeyondFloats then .error .reply
    else
      let ports? :=
        c.ports.map fun s => split ',' (String.ofList (s.toList.filter fun ch => !isBlank ch))
      .ok (version ≤ 1 && c.domain.all
        (fun d => domainFits (hostOf authority) d (if version = 1 then 0 else version))
        && ports?.all (portAmong (portOf authority)))

end ReplyCookie

namespace ServerReply

open ReplyCookie

/-- For each cookie that a reply asks for, whether it is kept. -/
def verdicts (authority : String) (present : Time.Instant) :
    List String → Except CookieRefusal (List Bool)
  | [] => .ok []
  | header :: rest => do
    let verdict ←
      match attributes? header with
      | none => pure false
      | some attributes =>
        let now := present / 1000000
        match datedAll present attributes with
        | .error _ => throw .reply
        | .ok dated =>
          match settleAll now {} dated with
          | .error .cookie => pure false
          | .error .reply => throw .reply
          | .ok c => c.isKept authority now
    return verdict :: (← verdicts authority present rest)

/-- Whether a reply to a request leaves cookies with the browser. -/
def leavesCookies (r : ServerReply) (request : Url) : Bool :=
  ((verdicts request.authority r.received (r.values "set-cookie")).toOption.getD []).any id

end ServerReply

end Waypost.Browser
