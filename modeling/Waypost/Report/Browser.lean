import Waypost.Browser.Tab
import Waypost.Report.Message
import Waypost.Report.Route

/-!
# Reports on the browser's side

Histories, intents, events and what a tab shows after each thing that happens to it.
-/

namespace Waypost.Browser

instance : Report Trigger := ⟨fun t => .text t.name⟩

instance : Report Phase := ⟨fun p => .text p.name⟩

instance : Report Sighting :=
  ⟨fun s => .array [report s.watcher, report s.path, report s.trigger, report s.index]⟩

instance : Report History :=
  ⟨fun h => .array [report h.entries, report h.index, report h.length, report h.current]⟩

instance : Report Intent :=
  ⟨fun i => .object
    [("path", report i.path), ("trigger", report i.trigger), ("replace", report i.replace),
     ("generation", report i.generation), ("history_index", report i.historyIndex)]⟩

instance : Report Trail :=
  ⟨fun t => .object
    [("current_path", report t.currentPath), ("stack", report t.stack),
     ("position", report t.position), ("pending", report t.pending)]⟩

/-- What an event says besides its class and its intent. -/
def Event.particulars : Event → List (String × Json)
  | .settled _ viewId params => [("view_id", report viewId), ("params", reportMembers params)]
  | .blocked _ reason corrected => [("reason", report reason), ("corrected_path", report corrected)]
  | .failed _ fault | .viewLoadFailed _ fault => [("failure", fault.summary)]
  | .superseded _ newer => [("by", report newer.generation)]
  | .viewLoaded _ data => [("data", report data)]

/-- The members of an event's report. -/
def Event.members (e : Event) : List (String × Json) :=
  [("event", report e.name), ("intent", report e.intent)] ++ e.particulars

instance : Report Event := ⟨fun e => .object e.members⟩

instance : Report Heard :=
  ⟨fun
    | .noted listener event phase path position => .object
      (event.members ++ [("listener", report listener), ("flow_state", report phase),
        ("at", report (path, position))])
    | .acted listener event =>
      .object [("listener", report listener), ("acts_on", report event.name)]⟩

/-- The outcome of an intent by name. -/
def Outcome.name : Outcome → String
  | .event e => e.name
  | .cancelled => "cancelled"

instance : Report Outcome :=
  ⟨fun
    | .event e => report e
    | .cancelled => .null⟩

instance : Report Fetch :=
  ⟨fun f => .array [report f.method, report f.url.text, report (f.token?.toOption.join)]⟩

instance : Report LoadNote :=
  ⟨fun
    | .begun l =>
      .array [.text "load", report l.viewId, reportMembers l.params, report l.intent.path]
    | .cancelled path => report ("cancelled", path)
    | .sent f => report f⟩

/-- The tab with nothing heard or noted yet. -/
def Tab.cleared (t : Tab) : Tab :=
  { t with
    notes := []
    engine :=
      { t.engine with journal := t.engine.journal.cleared, own := { t.engine.own with
        heard := [] } } }

/-- What a tab shows: its place, its queue, and what has happened since it was `before`. -/
def Tab.view (before after : Tab) : List (String × Json) :=
  let e := after.engine
  [("state", report e.trail), ("flow_state", report e.phase),
   ("queue", report (e.queue.map Intent.generation)),
   ("history", report (e.history.entries, e.history.index)), ("events", report e.own.heard),
   ("loads", report after.notes),
   ("futures", report ((Tab.endedSince before after).map fun p => (p.1, p.2.name)))]

end Waypost.Browser
