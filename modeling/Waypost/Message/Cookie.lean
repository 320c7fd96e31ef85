import Waypost.Keyed
import Waypost.Number.Integer
import Waypost.Text.Blank
import Waypost.Text.Case
import Waypost.Text.Pieces

/-!
# Cookies

`parseCookies` reads the cookies that a request sends, and `SetCookie` is what a response asks the
browser to keep: `SetCookie.headerText` writes it and `SetCookie.parse` reads it back.
-/

namespace Waypost

open Text

/-- A cookie of a request, if the text is one: a name and a value without blanks around them. -/
def readCookie? (pair : String) : Option (String × String) :=
  (cut? '=' (strip pair)).map fun p => (strip p.1, strip p.2)

/-- The cookies of a request. Of several with one name the first counts. -/
def parseCookies (header : String) : List (String × String) :=
  ((split ';' header).filterMap readCookie?).foldl (fun m p => Keyed.putNew p.1 p.2 m) []

/-- The pieces of a text between semicolons, without blanks around them. -/
def cookieParts (s : String) : List String :=
  (split ';' s).map strip

/-- A text before and after its first equals sign; all of it before if there is none. -/
def splitAttribute (s : String) : String × String :=
  (cut? '=' s).getD (s, "")

/-- A cookie that a response sets. -/
structure SetCookie where
  name : String
  value : String
  maxAge : Option Int := none
  path : String := "/"
  domain : Option String := none
  secure : Bool := false
  httpOnly : Bool := true
  sameSite : String := "lax"
deriving DecidableEq, Repr

namespace SetCookie

/-- The parts of the header value. Attributes that are absent or empty are left out. -/
def parts (c : SetCookie) : List String :=
  [c.name ++ "=" ++ c.value]
    ++ (match c.maxAge with | none => [] | some n => ["Max-Age=" ++ toString n])
    ++ (if c.path.isEmpty then [] else ["Path=" ++ c.path])
    ++ (match c.domain with | none => [] | some d => if d.isEmpty then [] else ["Domain=" ++ d])
    ++ (if c.secure then ["Secure"] else [])
    ++ (if c.httpOnly then ["HttpOnly"] else [])
    ++ (if c.sameSite.isEmpty then [] else ["SameSite=" ++ c.sameSite])

/-- The header value. -/
def headerText (c : SetCookie) : String :=
  "; ".intercalate c.parts

/-- Takes one attribute into account. -/
def withAttribute (c : SetCookie) (attr : String) : Except Number.IntegerError SetCookie :=
  let (key, value) := splitAttribute attr
  match lower key with
  | "max-age" =>
    match Number.readInteger value with
    | .error e => .error e
    | .ok n => .ok { c with maxAge := some n }
  | "path" => .ok { c with path := value }
  | "domain" => .ok { c with domain := some value }
  | "secure" => .ok { c with secure := true }
  | "httponly" => .ok { c with httpOnly := true }
  | "samesite" => .ok { c with sameSite := value }
  | _ => .ok c

/-- Takes attributes into account in order. -/
def withAttributes (c : SetCookie) : List String → Except Number.IntegerError SetCookie
  | [] => .ok c
  | a :: as =>
    match c.withAttribute a with
    | .error e => .error e
    | .ok c => c.withAttributes as

/-- A cookie with nothing but a name and a value. -/
def bare (pair : String) : SetCookie :=
  let (name, value) := splitAttribute pair
  { name, value, path := "", httpOnly := false, sameSite := "" }

/-- Reads a header value. -/
def parse (s : String) : Except Number.IntegerError SetCookie :=
  match cookieParts s with
  | [] => .ok (bare "")
  | first :: attrs => (bare first).withAttributes attrs

end SetCookie

end Waypost
