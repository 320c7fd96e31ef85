import Waypost.Access.Store
import Waypost.Fault.Basic

/-!
# Logging in and out

A missing account and a wrong password have the same outcome, and the password is checked before
anything else, so that nothing is learned about which accounts there are.
-/

namespace Waypost.Access

/-- Someone who may log in. -/
structure Account where
  id : String
  encodedPassword : String
  isActive : Bool := true
  level : Level := .authenticated
deriving DecidableEq, Repr

/-- How an attempt to log in ends. -/
inductive LoginOutcome where
  | success (session : Session)
  | accountInactive
  | wrongCredentials
deriving DecidableEq, Repr

/-- The name of an outcome. -/
def LoginOutcome.name : LoginOutcome → String
  | .success _ => "success"
  | .accountInactive => "account_inactive"
  | .wrongCredentials => "wrong_credentials"

/-- The session of a successful attempt. -/
def LoginOutcome.session? : LoginOutcome → Option Session
  | .success s => some s
  | _ => none

/-- How an attempt to log out ends. -/
inductive LogoutOutcome where
  | success
  | notLoggedIn
deriving DecidableEq, Repr

/-- The name of an outcome. -/
def LogoutOutcome.name : LogoutOutcome → String
  | .success => "success"
  | .notLoggedIn => "not_logged_in"

/-- The event of a failed attempt. -/
def loginFailure (userId : Option String) (outcome : LoginOutcome) : SecurityEvent where
  name := "auth.login.failure"
  userId := .ofText? userId
  details := .object [("reason", .text outcome.name)]

/-- Whether an account exists and the password is its own. -/
def passwordFits (account : Option Account) (password : String) :
    Except Codec.EncodeError (Option Account) :=
  match account with
  | none => .ok none
  | some a =>
    match Password.verify password a.encodedPassword with
    | .error e => .error e
    | .ok fits => .ok (if fits then some a else none)

/-- Checks a password and issues a session. -/
def login (account : Option Account) (password : String) (s : Store) (now : Time.Instant)
    (j : Journal) : Except Fault LoginOutcome × Store × Journal :=
  match passwordFits account password with
  | .error e => (.error (.encode e), s, j)
  | .ok none =>
    (.ok .wrongCredentials, s, j.emit (loginFailure (account.map Account.id) .wrongCredentials))
  | .ok (some a) =>
    if !a.isActive then
      let j := j.log ⟨.info, .auth, "Login refused for inactive account " ++ Text.quote a.id, none⟩
      (.ok .accountInactive, s, j.emit (loginFailure (some a.id) .accountInactive))
    else
      match s.issue now a.id a.level none j with
      | (.error e, s, j) => (.error (.range e), s, j)
      | (.ok session, s, j) =>
        (.ok (.success session), s, j.emit { name := "auth.login.success", userId := .text a.id })

/-- Revokes the session of a token. -/
def logout (token : Option String) (s : Store) (j : Journal) : LogoutOutcome × Store × Journal :=
  match token.filter fun t => !t.isEmpty with
  | none => (.notLoggedIn, s, j)
  | some t =>
    match s.revoke t j with
    | (true, s, j) => (.success, s, j)
    | (false, s, j) => (.notLoggedIn, s, j)

end Waypost.Access
