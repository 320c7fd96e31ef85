import Waypost.Browser.Credential
import Waypost.Browser.Intent

/-!
# The navigation engine

Intents wait in a queue and are dealt with one at a time: the path is matched against the views, the
guard decides, and the move is written to the browser's history. The browser's own moves come in as
intents too; one that is refused is undone by writing the current path over the entry it landed on.

A new move of the browser supersedes everything that waits, and a new click or programmatic intent
supersedes waiting ones of its kind.

Every operation that reports an event takes `tell`, which lets those who listen react to it.
Listeners may change the engine in turn.
-/

namespace Waypost.Browser

open Access Time

/-- How a path is written to the browser's history: as a new entry, or over the current one. -/
inductive Write where
  | push
  | replace
deriving DecidableEq, Repr

/-- How the engine learns who is signed in. -/
inductive Source where
  | given (session : Option Session)
  | wallet
deriving DecidableEq, Repr, Inhabited

/-- How the wait for an intent's outcome ends. -/
inductive Outcome where
  | event (e : Event)
  | cancelled
deriving Inhabited

/-- The loading of a view's data. -/
structure Load where
  intent : Intent
  viewId : String
  params : List (String × String)
  finished : Bool := false
deriving Inhabited

/-- What the engine asks of whoever runs things for it: look at the queue, give a load up, begin
one. Loads go by number. -/
inductive Signal where
  | wake
  | giveUp (load : Nat)
  | begin (load : Nat)
deriving DecidableEq, Repr

/-- The engine with the browser around it; `own` belongs to those who listen. -/
structure Engine (ω : Type) where
  views : Route.Table
  guard : Level → Option Session → Instant → Verdict := Access.guard
  history : History
  /-- Which writes to the history fail, by their number. -/
  refuses : Nat → Write → Bool := fun _ _ => false
  /-- How many writes there have been. -/
  writes : Nat := 0
  source : Source := .given none
  wallet : Wallet := {}
  now : Instant
  journal : Journal := {}
  trail : Trail := .start history.current
  /-- The browser's index of the first entry of the trail. -/
  offset : Int := history.index
  phase : Phase := .idle
  queue : List Intent := []
  generation : Nat := 0
  /-- How the waits for intents have ended, by generation. -/
  outcomes : List (Nat × Outcome) := []
  /-- Whether the engine hears of the browser's moves. -/
  listening : Bool := false
  /-- Whether views have data to load. -/
  loading : Bool := false
  loads : List Load := []
  latestLoad : Option Nat := none
  loadGeneration : Nat := 0
  signals : List Signal := []
  own : ω

namespace Engine

variable {ω : Type}

/-- Adds a record to the journal. -/
def log (e : Engine ω) (severity : Severity) (message : String) : Engine ω :=
  { e with journal := e.journal.log ⟨severity, .client, message, none⟩ }

/-- Begins to hear of the browser's moves, from where the browser is now. -/
def start (e : Engine ω) : Engine ω :=
  if e.listening then e
  else { e with trail := .start e.history.current, offset := e.history.index, listening := true }

/-- Ends the wait for an intent, unless it has ended. -/
def resolve (e : Engine ω) (generation : Nat) (o : Outcome) : Engine ω :=
  { e with outcomes := Keyed.putNew generation o e.outcomes }

/-- Gives up the latest load if it has not finished. -/
def giveUpLoad (e : Engine ω) : Engine ω :=
  match e.latestLoad with
  | none => e
  | some n =>
    match e.loads[n]? with
    | none => e
    | some l => if l.finished then e else { e with signals := e.signals ++ [.giveUp n] }

/-- Stops hearing of the browser's moves and gives up the latest load. -/
def close (e : Engine ω) : Engine ω :=
  { e with listening := false }.giveUpLoad

/-- Whether a new intent supersedes a waiting one. -/
def supersedes (new old : Intent) : Bool :=
  new.trigger.isExternal || !old.trigger.isExternal

/-- Reports waiting intents as superseded. -/
def reportSuperseded (tell : Event → Engine ω → Engine ω) (new : Intent) (e : Engine ω) :
    List Intent → Engine ω
  | [] => e
  | old :: rest =>
    let event := Event.superseded old new
    reportSuperseded tell new (tell event (e.resolve old.generation (.event event))) rest

/-- Takes what an intent supersedes out of the queue. -/
def supersede (tell : Event → Engine ω → Engine ω) (new : Intent) (e : Engine ω) : Engine ω :=
  reportSuperseded tell new { e with queue := e.queue.filter fun old => !supersedes new old }
    (e.queue.filter fun old => supersedes new old)

/-- Queues an intent and returns its generation. A move of the browser is stamped with the entry it
landed on, which is the current one unless another is given. -/
def submit (tell : Event → Engine ω → Engine ω) (e : Engine ω) (path : String) (trigger : Trigger)
    (replace : Bool) (index : Option Int) : Nat × Engine ω :=
  let stamp := if trigger.isExternal then some (index.getD e.history.index) else none
  let intent : Intent := ⟨path, trigger, replace, e.generation + 1, stamp⟩
  let e := supersede tell intent { e with generation := e.generation + 1 }
  (intent.generation,
    { e with
      queue := e.queue ++ [intent]
      trail := { e.trail with pending := some intent }
      signals := e.signals ++ [.wake] })

/-- Moves the browser, which submits an intent if the engine listens; says whether there was
somewhere to go. -/
def travel (tell : Event → Engine ω → Engine ω) (e : Engine ω) (t : Trigger) : Bool × Engine ω :=
  match e.history.move? t with
  | none => (false, e)
  | some h =>
    let e := { e with history := h }
    (true, if e.listening then (e.submit tell h.current t false (some h.index)).2 else e)

/-- Writes a path to the browser's history, which may refuse it. -/
def write (e : Engine ω) (w : Write) (path : String) : Except NavigationError Unit × Engine ω :=
  let after := { e with writes := e.writes + 1 }
  match w, e.refuses e.writes w with
  | .push, true => (.error (.cannotPush path), after)
  | .push, false => (.ok (), { after with history := e.history.push path })
  | .replace, true => (.error (.cannotReplace path), after)
  | .replace, false => (.ok (), { after with history := e.history.replace path })

/-- Writes a settled intent to the browser's history, which a move of the browser needs not. -/
def writeIntent (e : Engine ω) (i : Intent) : Except NavigationError Unit × Engine ω :=
  if i.trigger.isExternal then (.ok (), e)
  else e.write (if i.replace then .replace else .push) i.path

/-- Puts the trail on the browser's entry of an intent, with a path there. -/
def placeAt (e : Engine ω) (i : Intent) (path : String) : Engine ω :=
  let (trail, offset) := e.trail.moved e.offset (i.historyIndex.getD 0) path
  { e with trail, offset }

/-- Undoes a refused move of the browser by writing the current path over the entry it landed on, if
the browser is still there. -/
def compensate (e : Engine ω) (i : Intent) : Except NavigationError String × Engine ω :=
  if i.historyIndex ≠ some (e.history.index : Int) then
    (.error (.leftEntry (i.historyIndex.getD 0) e.history.index), e)
  else
    let current := e.trail.currentPath
    match e.write .replace current with
    | (.error err, e) => (.error err, e)
    | (.ok (), e) => (.ok current, e.placeAt i current)

/-- Reports the event that an intent ends with. -/
def finish (tell : Event → Engine ω → Engine ω) (e : Engine ω) (event : Event) : Event × Engine ω :=
  (event, tell event { e with trail := { e.trail with pending := e.queue.getLast? } })

/-- The report of a move that could not be undone. -/
def uncorrected (e : Engine ω) (i : Intent) (err : NavigationError) : Engine ω :=
  e.log .warning ("Could not correct the URL for " ++ i.path ++ ": " ++ err.message)

/-- Ends an intent that the guard refuses. -/
def block (tell : Event → Engine ω → Engine ω) (e : Engine ω) (i : Intent) (reason : Verdict)
    (required : Level) :
    Event × Engine ω :=
  let e := { e with phase := .blocked }.log .info
    ("Navigation to " ++ i.path ++ " blocked (" ++ reason.name ++ ", needs " ++
      required.label ++ ")")
  if !i.trigger.isExternal then e.finish tell (.blocked i reason none)
  else
    match e.compensate i with
    | (.error err, e) => (e.uncorrected i err).finish tell (.failed i (.navigation err))
    | (.ok corrected, e) => e.finish tell (.blocked i reason (some corrected))

/-- Ends an intent whose path no view has. -/
def failUnknown (tell : Event → Engine ω → Engine ω) (e : Engine ω) (i : Intent) :
    Event × Engine ω :=
  let e := e.log .debug ("No view for " ++ i.path)
  let event := Event.failed i (.navigation (.noView i.path))
  if !i.trigger.isExternal then e.finish tell event
  else
    match e.compensate i with
    | (.error err, e) => (e.uncorrected i err).finish tell (.failed i (.navigation err))
    | (.ok _, e) => e.finish tell event

/-- Begins to load the data of a view and gives up the load before it. -/
def startLoad (e : Engine ω) (i : Intent) (viewId : String) (params : List (String × String)) :
    Engine ω :=
  if !e.loading then e
  else
    let e := e.giveUpLoad
    let n := e.loads.length
    { e with
      loads := e.loads ++ [⟨i, viewId, params, false⟩]
      latestLoad := some n
      loadGeneration := i.generation
      signals := e.signals ++ [.begin n] }

/-- The trail after an intent has settled. -/
def settleTrail (e : Engine ω) (i : Intent) : Engine ω :=
  if i.trigger.isExternal then
    let e := e.placeAt i i.path
    { e with trail := { e.trail with currentPath := i.path } }
  else { e with trail := e.trail.committed i }

/-- Carries an intent out that the guard allows. -/
def commit (tell : Event → Engine ω → Engine ω) (e : Engine ω) (i : Intent) (viewId : String)
    (params : List (String × String)) : Event × Engine ω :=
  let e := { e with phase := .committing }
  match e.writeIntent i with
  | (.error err, e) =>
    (e.log .warning ("History write failed for " ++ i.path ++ ": " ++ err.message)).finish tell
      (.failed i (.navigation err))
  | (.ok (), e) =>
    let e := { e.settleTrail i with phase := .settled }
    let (event, e) := e.finish tell (.settled i viewId params)
    (event, e.startLoad i viewId params)

/-- Who is signed in. -/
def credential (e : Engine ω) : Except Fault (Option Session) × Engine ω :=
  match e.source with
  | .given s => (.ok s, e)
  | .wallet =>
    let (s, w, j) := e.wallet.current e.now e.journal
    (s, { e with wallet := w, journal := j })

/-- Asks the guard about an intent whose view is known, and carries it out or refuses it. -/
def judge (tell : Event → Engine ω → Engine ω) (e : Engine ω) (i : Intent) (entry : Route.Entry)
    (params : List (String × String)) : Except Fault Event × Engine ω :=
  match e.credential with
  | (.error f, e) => (.error f, e)
  | (.ok session, e) =>
    let (event, e) :=
      match e.guard entry.level session e.now with
      | .allowed => e.commit tell i entry.handlerId params
      | reason => e.block tell i reason entry.level
    (.ok event, e)

/-- Deals with an intent. -/
def process (tell : Event → Engine ω → Engine ω) (e : Engine ω) (i : Intent) :
    Except Fault Event × Engine ω :=
  let e := { e with phase := .evaluating }
  let (result, e) :=
    match e.views.lookup "GET" i.path with
    | .matched entry params => e.judge tell i entry params
    | _ =>
      let (event, e) := e.failUnknown tell i
      (.ok event, e)
  (result, { e with phase := .idle })

/-- Deals with the first waiting intent, if there is one. -/
def processNext (tell : Event → Engine ω → Engine ω) (e : Engine ω) :
    Option (Except Fault Unit × Engine ω) :=
  match e.queue with
  | [] => none
  | i :: rest =>
    match process tell { e with queue := rest } i with
    | (.error f, e) => some (.error f, e)
    | (.ok event, e) => some (.ok (), e.resolve i.generation (.event event))

/-- Deals with at most `fuel` waiting intents, and says how many there were. -/
def processFor (tell : Event → Engine ω → Engine ω) :
    Nat → Nat → Engine ω → Except Fault Nat × Engine ω
  | 0, handled, e => (.ok handled, e)
  | fuel + 1, handled, e =>
    match e.processNext tell with
    | none => (.ok handled, e)
    | some (.error f, e) => (.error f, e)
    | some (.ok (), e) => processFor tell fuel (handled + 1) e

/-- Deals with all waiting intents, and with up to `more` that listeners add. -/
def processPending (tell : Event → Engine ω → Engine ω) (more : Nat) (e : Engine ω) :
    Except Fault Nat × Engine ω :=
  processFor tell (e.queue.length + more) 0 e

/-- Marks a load as finished. -/
def markFinished (e : Engine ω) (n : Nat) : Engine ω :=
  { e with loads := e.loads.modify n fun l => { l with finished := true } }

/-- Takes the data of a view, or why there are none; those of any but the latest settled intent are
dropped. -/
def receive (tell : Event → Engine ω → Engine ω) (e : Engine ω) (n : Nat)
    (result : Except Fault Json) : Engine ω :=
  match e.loads[n]? with
  | none => e
  | some l =>
    let i := l.intent
    let e :=
      match result with
      | .error f =>
        if i.generation ≠ e.loadGeneration then
          e.log .debug ("Ignoring stale view load failure for " ++ i.path)
        else
          tell (.viewLoadFailed i f)
            (e.log .warning ("View data for " ++ i.path ++ " failed to load: " ++ f.message))
      | .ok data =>
        if i.generation ≠ e.loadGeneration then
          e.log .debug ("Discarding stale view data for " ++ i.path ++ " (generation " ++
            toString i.generation ++ ", latest " ++ toString e.loadGeneration ++ ")")
        else tell (.viewLoaded i data) e
    e.markFinished n

end Engine

end Waypost.Browser
