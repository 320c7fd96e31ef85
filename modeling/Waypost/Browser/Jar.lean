import Waypost.Fault.Basic
import Waypost.Message.Cookie
import Waypost.Time.MailDate

/-!
# The cookie jar of a page

A page writes one cookie at a time as a text with attributes and reads all live cookies as one text.
`Jar.assign` is the writing, `Jar.text` the reading; `Jar.get?` finds one cookie by reading that
text again.
-/

namespace Waypost.Browser

open Text Time

/-- How long a cookie lives. -/
inductive Lifetime where
  /-- A number of seconds from now on; an hour if none is given. -/
  | seconds (n : Option Int)
  /-- Up to an instant. -/
  | until (t : Instant)
deriving DecidableEq, Repr

/-- The seconds of an hour. -/
def defaultMaxAge : Int := 3600

/-- The attribute that gives a lifetime. -/
def Lifetime.attribute : Lifetime → String
  | .seconds n => "max-age=" ++ toString (n.getD defaultMaxAge)
  | .until t => "expires=" ++ formatMailDate t

/-- A cookie as a page writes it. -/
structure PageCookie where
  key : String
  value : String
  path : String := "/"
  domain : Option String := none
  lifetime : Lifetime := .seconds (some defaultMaxAge)
  secure : Bool := false
deriving DecidableEq, Repr

/-- The text that is written. -/
def PageCookie.text (c : PageCookie) : String :=
  c.key ++ "=" ++ c.value ++ "; " ++ c.lifetime.attribute
    ++ (match c.domain with | none => "" | some d => if d.isEmpty then "" else "; domain=" ++ d)
    ++ (if c.path.isEmpty then "" else "; path=" ++ c.path)
    ++ (if c.secure then "; secure" else "")

/-- A cookie that is kept: its value and, if it has one, its end. -/
structure Kept where
  value : String
  expiresAt : Option Instant := none
deriving DecidableEq, Repr

/-- Whether a kept cookie is still there. -/
def Kept.isLive (c : Kept) (now : Instant) : Bool :=
  match c.expiresAt with
  | none => true
  | some t => now < t

/-- The cookies of a page. -/
structure Jar where
  cookies : List (String × Kept) := []
deriving DecidableEq, Repr, Inhabited

/-- The end of a cookie, as its attributes give it. -/
inductive Expiry where
  | never
  | stamp (s : Stamp)
deriving DecidableEq, Repr

/-- Takes one attribute into account. A date counts only where nothing was said before. -/
def Expiry.withAttribute (now : Instant) (e : Expiry) (attr : String) : Except Fault Expiry :=
  let (name, value) := splitAttribute attr
  match lower (strip name) with
  | "max-age" =>
    match Number.readInteger value with
    | .error err => .error (.integer err)
    | .ok n =>
      match Duration.ofSeconds n with
      | .error err => .error (.range err)
      | .ok d =>
        match Instant.add now d with
        | .error err => .error (.range err)
        | .ok t => .ok (.stamp (.fixed t))
  | "expires" =>
    match e with
    | .stamp _ => .ok e
    | .never =>
      match parseMailDate value with
      | .error err => .error (.date err)
      | .ok s => .ok (.stamp s)
  | _ => .ok e

/-- Takes attributes into account in order. -/
def Expiry.withAttributes (now : Instant) (e : Expiry) : List String → Except Fault Expiry
  | [] => .ok e
  | a :: as =>
    match e.withAttribute now a with
    | .error err => .error err
    | .ok e => e.withAttributes now as

namespace Jar

/-- The live cookies. -/
def live (j : Jar) (now : Instant) : List (String × String) :=
  (j.cookies.filter fun c => c.2.isLive now).map fun c => (c.1, c.2.value)

/-- The live cookies as one text. -/
def text (j : Jar) (now : Instant) : String :=
  "; ".intercalate ((j.live now).map fun c => c.1 ++ "=" ++ c.2)

/-- The value of a cookie in the text of all. -/
def get? (j : Jar) (now : Instant) (key : String) : Option String :=
  Keyed.get? key (parseCookies (j.text now))

/-- Keeps a cookie, or removes it if its end has come. -/
def keep (j : Jar) (now : Instant) (key value : String) : Expiry → Except Fault Jar
  | .never => .ok ⟨Keyed.put key ⟨value, none⟩ j.cookies⟩
  | .stamp (.floating _) => .error .floatingDate
  | .stamp (.fixed t) =>
    if t ≤ now then .ok ⟨Keyed.erase key j.cookies⟩
    else .ok ⟨Keyed.put key ⟨value, some t⟩ j.cookies⟩

/-- Writes a cookie given as a text. A text without a key is ignored. -/
def assign (j : Jar) (now : Instant) (s : String) : Except Fault Jar :=
  match cookieParts s with
  | [] => .ok j
  | first :: attrs =>
    match cut? '=' first with
    | none => .ok j
    | some (key, value) =>
      if (strip key).isEmpty then .ok j
      else
        match Expiry.never.withAttributes now attrs with
        | .error e => .error e
        | .ok expiry => j.keep now (strip key) (strip value) expiry

/-- Writes a cookie. -/
def write (j : Jar) (now : Instant) (c : PageCookie) : Except Fault Jar :=
  j.assign now c.text

end Jar

end Waypost.Browser
