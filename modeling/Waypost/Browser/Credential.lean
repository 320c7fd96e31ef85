import Waypost.Access.Session
import Waypost.Browser.Jar
import Waypost.Journal.Book

/-!
# The cached credential

A page remembers the session it is signed in with for as long as the session cookie holds the token
it was given for it. The cookie is the truth: once it is gone or changed the session is forgotten.
-/

namespace Waypost.Browser

open Access Time

/-- The session that a page is signed in with, and the cookies it lives in. -/
structure Wallet where
  jar : Jar := {}
  cookieName : String := "SESSION_ID"
  session : Option Session := none
  /-- The token as the server expects it back. -/
  wireToken : Option String := none
deriving DecidableEq, Repr, Inhabited

namespace Wallet

/-- The token in the session cookie. -/
def token? (w : Wallet) (now : Instant) : Option String :=
  w.jar.get? now w.cookieName

/-- The token to sign in with: the one given, unless it is empty, or the session's own. -/
def tokenToWrite (s : Option Session) (token : Option String) : Except Fault String :=
  match token.filter fun t => !t.isEmpty, s with
  | some t, _ => .ok t
  | none, some s => .ok s.token
  | none, none => .error (.lacks ⟨"NoneType", "token"⟩)

/-- Signs in: writes the session cookie, for seven days, and remembers the session. -/
def signIn (w : Wallet) (now : Instant) (s : Option Session) (token : Option String) :
    Except Fault Wallet :=
  match tokenToWrite s token with
  | .error e => .error e
  | .ok wire =>
    match w.jar.write now
      { key := w.cookieName, value := wire, lifetime := .seconds (some weekSeconds) } with
    | .error e => .error e
    | .ok jar => .ok { w with jar, session := s, wireToken := some wire }

/-- Remembers a session under the cookie that the server has set, if there is one. -/
def adopt (w : Wallet) (now : Instant) (s : Option Session) : Bool × Wallet :=
  match (w.token? now).filter fun t => !t.isEmpty with
  | none => (false, w)
  | some wire => (true, { w with session := s, wireToken := some wire })

/-- Forgets the session. -/
def forget (w : Wallet) : Wallet :=
  { w with session := none, wireToken := none }

/-- Signs out: removes the session cookie and forgets the session. -/
def signOut (w : Wallet) (now : Instant) : Except Fault Wallet :=
  match w.jar.write now { key := w.cookieName, value := "", lifetime := .seconds (some 0) } with
  | .error e => .error e
  | .ok jar => .ok { w with jar }.forget

/-- The session that the page is signed in with, if the cookie still holds its token and it has not
ended. -/
def current (w : Wallet) (now : Instant) (j : Journal) :
    Except Fault (Option Session) × Wallet × Journal :=
  match w.session with
  | none => (.ok none, w, j)
  | some s =>
    if w.token? now ≠ w.wireToken then
      (.ok none, w.forget, j.log
        ⟨.debug, .client, "Session cookie gone; dropping cached session", none⟩)
    else if s.isExpired now then
      let j := j.log ⟨.debug, .client, "Cached session expired", none⟩
      match w.signOut now with
      | .error e => (.error e, w, j)
      | .ok w => (.ok none, w, j)
    else (.ok (some s), w, j)

end Wallet

end Waypost.Browser
