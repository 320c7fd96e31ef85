import Waypost.Service.App

/-!
# Starting and stopping

A server tells an application when to start and when to stop. The hooks run in order; a start hook
that fails is reported to the server, a stop hook that fails is a fault.
-/

namespace Waypost.Service

/-- What an application reports to the server. -/
inductive LifeSign where
  | started
  | startFailed (message : String)
  | stopped
deriving DecidableEq, Repr

namespace App

variable {α : Type}

/-- Runs hooks in order up to the first that fails. -/
def runHooks : List (Act α Unit) → Act α Unit
  | [] => fun w => (.ok (), w)
  | hook :: hooks => fun w =>
    match hook w with
    | (.error f, w) => (.error f, w)
    | (.ok (), w) => runHooks hooks w

/-- What came of a conversation with the server: how it ended, what was reported and which messages
are unread. -/
structure Conversation (α : Type) where
  result : Except Fault Unit
  sent : List LifeSign
  unread : List String
  world : World α

/-- The report of a start hook that failed. -/
def startFailure (f : Fault) : LogRecord where
  severity := .error
  logger := .server
  message := "Startup hook failed"
  fault := some f.kind

/-- Follows the server's messages until it is told to stop; `atEnd` is the fault of reading past the
last one. -/
def converse (a : App α) (atEnd : Fault) (sent : List LifeSign) (w : World α) :
    List String → Conversation α
  | [] => ⟨.error atEnd, sent, [], w⟩
  | m :: ms =>
    if m = "lifespan.startup" then
      match runHooks a.startHooks w with
      | (.ok (), w) => a.converse atEnd (sent ++ [.started]) w ms
      | (.error f, w) => ⟨.ok (), sent ++ [.startFailed f.message], ms, w.log (startFailure f)⟩
    else if m = "lifespan.shutdown" then
      match runHooks a.stopHooks w with
      | (.ok (), w) => ⟨.ok (), sent ++ [.stopped], ms, w⟩
      | (.error f, w) => ⟨.error f, sent, ms, w⟩
    else a.converse atEnd sent w ms

/-- Freezes the application and follows the server's messages. -/
def lifespan (a : App α) (atEnd : Fault) (messages : List String) (w : World α) :
    App α × Conversation α :=
  match a.freeze w.journal with
  | (.error f, j) => (a, ⟨.error f, [], messages, w.withJournal j⟩)
  | (.ok a, j) => (a, a.converse atEnd [] (w.withJournal j) messages)

/-- Freezes the application and runs its start hooks. -/
def start (a : App α) (w : World α) : Except Fault Unit × App α × World α :=
  match a.freeze w.journal with
  | (.error f, j) => (.error f, a, w.withJournal j)
  | (.ok a, j) =>
    let (result, w) := runHooks a.startHooks (w.withJournal j)
    (result, a, w)

/-- Runs the stop hooks. -/
def stop (a : App α) : Act α Unit :=
  runHooks a.stopHooks

end App

end Waypost.Service
