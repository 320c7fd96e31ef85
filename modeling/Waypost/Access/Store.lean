import Waypost.Access.Session
import Waypost.Journal.Book
import Waypost.Keyed

/-!
# The session store

Sessions by token. Issuing takes the next token of the store's source; revoking and purging remove
sessions. A session that has ended stays until it is purged, and the guard decides what it is worth.
-/

namespace Waypost.Access

open Time

/-- The sessions in force. -/
structure Store where
  sessions : List (String × Session) := []
  /-- How long a session lasts unless said otherwise. -/
  ttl : Duration := week
  /-- The source of tokens: the `n`-th token. -/
  tokens : Nat → String
  /-- How many tokens have been taken from the source. -/
  taken : Nat := 0

namespace Store

/-- The session of a token. -/
def get? (s : Store) (token : String) : Option Session :=
  Keyed.get? token s.sessions

/-- The number of sessions. -/
def size (s : Store) : Nat :=
  s.sessions.length

/-- Whether a token has a session. -/
def contains (s : Store) (token : String) : Bool :=
  Keyed.has token s.sessions

/-- The event of an issued session. -/
def issuedEvent (userId : String) (level : Level) : SecurityEvent where
  name := "auth.session.issued"
  userId := .text userId
  details := .object [("level", .text level.label)]

/-- Issues a session. The token is taken even if the end would be out of range. -/
def issue (s : Store) (now : Instant) (userId : String) (level : Level) (ttl : Option Duration)
    (j : Journal) : Except RangeError Session × Store × Journal :=
  let token := s.tokens s.taken
  let s := { s with taken := s.taken + 1 }
  match now.add (ttl.getD s.ttl) with
  | .error e => (.error e, s, j)
  | .ok expiresAt =>
    let session : Session := ⟨token, level, expiresAt, userId⟩
    let j :=
      j.log ⟨.debug, .auth, "Issued " ++ level.label ++ " session for " ++ Text.quote userId, none⟩
    (.ok session, { s with sessions := Keyed.put token session s.sessions },
      j.emit (issuedEvent userId level))

/-- Removes a session; says whether there was one. -/
def revoke (s : Store) (token : String) (j : Journal) : Bool × Store × Journal :=
  match s.get? token with
  | none => (false, s, j)
  | some session =>
    (true, { s with sessions := Keyed.erase token s.sessions },
      j.emit { name := "auth.session.revoked", userId := .text session.userId })

/-- Removes the sessions that have ended; says how many. -/
def purge (s : Store) (now : Instant) (j : Journal) : Nat × Store × Journal :=
  let ended := s.sessions.filter fun p => p.2.isExpired now
  let s := { s with sessions := s.sessions.filter fun p => !p.2.isExpired now }
  if ended.isEmpty then (0, s, j)
  else
    (ended.length, s,
      j.log ⟨.debug, .auth, "Purged " ++ toString ended.length ++ " expired session(s)", none⟩)

end Store

end Waypost.Access
