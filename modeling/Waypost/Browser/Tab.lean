import Waypost.Browser.Audience
import Waypost.Browser.Loader

/-!
# A tab

A tab runs the engine together with the loading of views. Work that is to be done waits in `ready`
as jobs and is done one job at a time, in order, when the tab is told to go on (`Tab.drain`): a load
begins or passes its gate, a runner deals with the queue, or somebody begins to wait for a view.

The engine's signals put jobs into `ready`: a new load, a load that is given up, a runner that is
woken.
-/

namespace Waypost.Browser

/-- How the data of a path come about when no server is asked. -/
structure Script where
  /-- What has to be opened first. -/
  gate : Option String := none
  /-- Goes on although the load is given up while it waits. -/
  stubborn : Bool := false
  /-- The data or the failure; by default the data say which view was asked for. -/
  result : Option (Except Fault Json) := none
deriving Inhabited

/-- Where the data of views come from. -/
inductive Supply where
  | scripted (scripts : List (String × Script))
  | remote (loader : Loader) (server : Fetch → Answer)

/-- What is noted about loads. -/
inductive LoadNote where
  | begun (load : Load)
  | cancelled (path : String)
  | sent (fetch : Fetch)
deriving Inhabited

/-- How far a load has come. -/
inductive LoadStage where
  | fresh
  | atGate (gate : String) (script : Script)
  | over
deriving Inhabited

/-- A load as the tab carries it out. -/
structure LoadTask where
  stage : LoadStage := .fresh
  givenUp : Bool := false
deriving Inhabited

/-- How far a runner has come. -/
inductive RunStage where
  | fresh
  | waiting
  | over
deriving DecidableEq, Repr, Inhabited

/-- A wait for the latest load: not begun, or for a load that was found, if one was. -/
inductive Settling where
  | asked
  | awaits (load : Option Nat)
deriving DecidableEq, Repr, Inhabited

/-- A piece of work. Loads, runners and waits go by number. -/
inductive Job where
  | load (n : Nat)
  | run (n : Nat)
  | settle (n : Nat)
deriving DecidableEq, Repr

/-- The engine with the work around it. -/
structure Tab where
  engine : Engine Audience
  supply : Supply := .scripted []
  ready : List Job := []
  openGates : List String := []
  tasks : List LoadTask := []
  runs : List RunStage := []
  settlings : List Settling := []
  /-- Whether a runner deals with the queue. -/
  running : Bool := false
  /-- Whether runners have been woken since the queue was last dealt with. -/
  awake : Bool := false
  notes : List LoadNote := []

namespace Tab

/-! ## Signals -/

/-- Puts a job at the end of the line, unless it is in it. -/
def schedule (t : Tab) (j : Job) : Tab :=
  if j ∈ t.ready then t else { t with ready := t.ready ++ [j] }

/-- Schedules the runners that wait. -/
def wakeRunners (t : Tab) : Tab :=
  t.runs.zipIdx.foldl (fun t (stage, n) => if stage = .waiting then t.schedule (.run n) else t) t

/-- Wakes the runners, unless they have been woken. -/
def wake (t : Tab) : Tab :=
  if t.awake then t else { t with awake := true }.wakeRunners

/-- Gives a load up: it hears of it when its turn comes. -/
def giveUp (t : Tab) (n : Nat) : Tab :=
  { t with tasks := t.tasks.modify n fun l => { l with givenUp := true } }.schedule (.load n)

/-- Does what a signal asks for. -/
def obey (t : Tab) : Signal → Tab
  | .wake => t.wake
  | .giveUp n => t.giveUp n
  | .begin n => { t with tasks := t.tasks ++ [(⟨.fresh, false⟩ : LoadTask)] }.schedule (.load n)

/-- Does what the engine's signals ask for, in order. -/
def absorb (t : Tab) : Tab :=
  t.engine.signals.foldl obey { t with engine := { t.engine with signals := [] } }

/-- Lets the engine do something. -/
def withEngine {α : Type} (t : Tab) (f : Engine Audience → α × Engine Audience) : α × Tab :=
  let (a, e) := f t.engine
  (a, { t with engine := e }.absorb)

/-! ## The queue -/

/-- Deals with all waiting intents and says how many there were. -/
def process (t : Tab) : Except Fault Nat × Tab :=
  match t.withEngine fun e => e.processPending Engine.tellAll e.own.budget with
  | (.error f, t) => (.error f, t)
  | (.ok n, t) => (.ok n, { t with awake := false })

/-- Changes how far a runner has come. -/
def setRun (t : Tab) (n : Nat) (stage : RunStage) : Tab :=
  { t with runs := t.runs.set n stage }

/-- Ends a runner. -/
def endRun (t : Tab) (n : Nat) : Tab :=
  { t.setRun n .over with running := false }

/-- A runner that has been woken deals with the queue, and waits again unless it is to stop. -/
def resumeRun (t : Tab) (n : Nat) : Tab :=
  match { t with awake := false }.process with
  | (.error _, t) => t.endRun n
  | (.ok _, t) => if t.running then t.setRun n .waiting else t.endRun n

/-- The turn of a runner. -/
def stepRun (t : Tab) (n : Nat) : Tab :=
  match t.runs[n]? with
  | some .fresh =>
    let t := { t with running := true }
    if t.awake then t.resumeRun n else t.setRun n .waiting
  | some .waiting => t.resumeRun n
  | _ => t

/-! ## Loads -/

/-- Changes how far a load has come. -/
def setStage (t : Tab) (n : Nat) (stage : LoadStage) : Tab :=
  { t with tasks := t.tasks.modify n fun l => { l with stage } }

/-- Notes something about a load. -/
def note (t : Tab) (x : LoadNote) : Tab :=
  { t with notes := t.notes ++ [x] }

/-- Ends a load that was given up. -/
def dropLoad (t : Tab) (n : Nat) : Tab :=
  { t with engine := t.engine.markFinished n }.setStage n .over

/-- Ends a load with its data or its failure. -/
def finishLoad (t : Tab) (n : Nat) (result : Except Fault Json) : Tab :=
  ((t.setStage n .over).withEngine fun e => ((), e.receive Engine.tellAll n result)).2

/-- What a script gives for a load. -/
def scriptResult (s : Script) (l : Load) : Except Fault Json :=
  s.result.getD
    (.ok
      (.object [("view", .text l.viewId),
        ("params", .object (l.params.map fun p => (p.1, .text p.2)))]))

/-- Begins a load: a scripted one may have to wait at its gate. -/
def beginLoad (t : Tab) (n : Nat) (l : Load) : Tab :=
  match t.supply with
  | .remote loader server =>
    let (result, sent) :=
      loader.load server (t.engine.wallet.token? t.engine.now) l.viewId l.intent.path
    let t := match sent with
      | none => t
      | some f => t.note (.sent f)
    t.finishLoad n result
  | .scripted scripts =>
    let script := (Keyed.get? l.intent.path scripts).getD {}
    let t := t.note (.begun l)
    match script.gate with
    | some gate =>
      if gate ∈ t.openGates then t.finishLoad n (scriptResult script l)
      else t.setStage n (.atGate gate script)
    | none => t.finishLoad n (scriptResult script l)

/-- The turn of a load that waits at a gate. -/
def passGate (t : Tab) (n : Nat) (l : Load) (givenUp : Bool) (script : Script) : Tab :=
  if givenUp then
    let t := t.note (.cancelled l.intent.path)
    if script.stubborn then t.finishLoad n (scriptResult script l) else t.dropLoad n
  else t.finishLoad n (scriptResult script l)

/-- The turn of a load. One that is given up before it has begun never begins. -/
def stepLoad (t : Tab) (n : Nat) : Tab :=
  match t.tasks[n]?, t.engine.loads[n]? with
  | some task, some l =>
    match task.stage with
    | .fresh => if task.givenUp then t.dropLoad n else t.beginLoad n l
    | .atGate _ script => t.passGate n l task.givenUp script
    | .over => t
  | _, _ => t

/-- Opens a gate for good. -/
def openGate (t : Tab) (gate : String) : Tab :=
  t.tasks.zipIdx.foldl
    (fun t (task, n) =>
      match task.stage with
      | .atGate g _ => if g = gate then t.schedule (.load n) else t
      | _ => t)
    { t with openGates := gate :: t.openGates }

/-! ## Going on -/

/-- Does a piece of work. -/
def step (t : Tab) : Job → Tab
  | .load n => t.stepLoad n
  | .run n => t.stepRun n
  | .settle n => { t with settlings := t.settlings.set n (.awaits t.engine.latestLoad) }

/-- Does at most `fuel` pieces of work. -/
def drainFor : Nat → Tab → Tab
  | 0, t => t
  | fuel + 1, t =>
    match t.ready with
    | [] => t
    | j :: rest => drainFor fuel ({ t with ready := rest }.step j)

/-- A bound on the work that can come up: each intent that waits or that a listener adds begins at
most one load, ends at most one, and wakes each runner at most once. -/
def work (t : Tab) : Nat :=
  let intents := t.engine.queue.length + t.engine.own.budget
  t.ready.length + t.tasks.length + (intents + 1) * (t.runs.length + 3)

/-- Works until nothing more can happen. -/
def drain (t : Tab) : Tab :=
  drainFor t.work t

/-! ## What a page does -/

/-- Submits an intent and deals with the queue, unless a runner does; the result is how the intent
ends. Other work goes on only if there have been runners. -/
def navigate (t : Tab) (path : String) (trigger : Trigger) (replace : Bool) :
    Except Fault (Option Outcome) × Tab :=
  let (generation, t) := t.withEngine fun e => e.submit Engine.tellAll path trigger replace none
  let (result, t) := if t.running then (.ok 0, t) else t.process
  match result with
  | .error f => (.error f, t)
  | .ok _ =>
    let t := if t.runs.isEmpty then t else t.drain
    (.ok (Keyed.get? generation t.engine.outcomes), t)

/-- Submits an intent and returns the number of the wait for it. -/
def submit (t : Tab) (path : String) (trigger : Trigger) (replace : Bool) (index : Option Int) :
    Nat × Tab :=
  t.withEngine fun e =>
    let e := e.submitAwaited Engine.tellAll path trigger replace index
    (e.own.awaited.length - 1, e)

/-- Moves the browser; says whether there was somewhere to go. -/
def travel (t : Tab) (trigger : Trigger) : Bool × Tab :=
  t.withEngine fun e => e.travel Engine.tellAll trigger

/-- Gives up waiting for an intent; says whether the wait had not ended. -/
def cancelWait (t : Tab) (n : Nat) : Bool × Tab :=
  match t.engine.own.awaited[n]? with
  | none => (false, t)
  | some g =>
    if Keyed.has g t.engine.outcomes then (false, t)
    else (true, { t with engine := t.engine.resolve g .cancelled })

/-- Starts a runner and goes on. -/
def run (t : Tab) : Tab :=
  { t with runs := t.runs ++ [RunStage.fresh], ready := t.ready ++ [Job.run t.runs.length] }.drain

/-- Tells the runners to stop. -/
def halt (t : Tab) : Tab :=
  { t with running := false }.wake

/-- Stops the runners and goes on. -/
def stop (t : Tab) : Tab :=
  t.halt.drain

/-- Closes the engine, stops the runners and goes on. -/
def close (t : Tab) : Tab :=
  (t.withEngine fun e => ((), e.close)).2.halt.drain

/-- Begins to wait for the latest load and goes on. -/
def settle (t : Tab) : Tab :=
  { t with
    settlings := t.settlings ++ [Settling.asked]
    ready := t.ready ++ [Job.settle t.settlings.length] }.drain

/-- Whether a wait for a load is over. -/
def isSettled (t : Tab) : Settling → Bool
  | .asked => false
  | .awaits none => true
  | .awaits (some n) =>
    match t.engine.loads[n]? with
    | none => true
    | some l => l.finished

/-- The waits for intents that are over now and were not before, with how they ended. -/
def endedSince (before after : Tab) : List (Nat × Outcome) :=
  after.engine.own.awaited.zipIdx.filterMap fun (g, n) =>
    match Keyed.get? g after.engine.outcomes with
    | some o => if Keyed.has g before.engine.outcomes then none else some (n, o)
    | none => none

end Tab

end Waypost.Browser
