import Waypost.Journal.Book
import Waypost.Route.Trie
import Waypost.Text.Case

/-!
# The route table

Entries are registered one by one or several together, all or none. A request is answered by the
most specific pattern that has its method; `HEAD` is served by `GET` where it has no entry of its
own.
-/

namespace Waypost.Route

open Text

/-- A table of routes. -/
structure Table where
  root : Node := .empty
  /-- In the order of registration. -/
  entries : List Entry := []
  labels : List (String × Entry) := []
  frozen : Bool := false
deriving Inhabited

/-- Why entries are not registered. -/
inductive RegisterError where
  | frozen
  | invalid (pattern : String) (flaw : Flaw)
  | duplicateLabel (label : String)
  | ambiguous (method pattern existing : String)
deriving DecidableEq, Repr

/-- The wording of the error. -/
def RegisterError.message : RegisterError → String
  | .frozen => "Cannot add routes after the route table is frozen."
  | .invalid pattern flaw => "Invalid route pattern " ++ quote pattern ++ ": " ++ flaw.reason
  | .duplicateLabel label => "Route label " ++ quote label ++ " is already registered"
  | .ambiguous method pattern existing =>
    method ++ " " ++ quote pattern ++ " is ambiguous with already registered " ++ method ++ " " ++
      quote existing

/-- Why a labelled route gives no path. -/
inductive UrlError where
  | unknownLabel (label : String)
  | fill (error : FillError)
deriving DecidableEq, Repr

/-- What a table says to a method and a path. -/
inductive Outcome where
  | matched (entry : Entry) (bound : List (String × String))
  | methodNotAllowed (path : String) (allowed : List String)
  | noRoute (path : String)
deriving DecidableEq, Repr

/-- Inserts a text into a sorted list, unless it is there. -/
def insertSorted (s : String) : List String → List String
  | [] => [s]
  | t :: ts => if s = t then t :: ts else if s < t then s :: t :: ts else t :: insertSorted s ts

/-- The texts in order, each once. -/
def sortedSet (ss : List String) : List String :=
  ss.foldr insertSorted []

namespace Table

/-- A table without entries. -/
def empty : Table := {}

/-- The registered entry, or the one earlier in the batch, that has the slot of `e`. -/
def rival? (t : Table) (batch : List Entry) (e : Entry) : Option Entry :=
  match batch.find? fun b => b.slot = e.slot with
  | some b => some b
  | none => Keyed.get? e.method (t.root.find e.pattern.segments)

/-- Checks one entry against the table and against `batch`, the entries before it. -/
def checkEntry (t : Table) (batch : List Entry) (e : Entry) : Except RegisterError Unit :=
  if !methods.contains e.method then
    .error (.invalid e.pattern.text (.unknownMethod e.method))
  else
    let taken :=
      match e.label with
      | none => none
      | some l =>
        if Keyed.has l t.labels || batch.any fun b => b.label = some l then some l else none
    match taken with
    | some l => .error (.duplicateLabel l)
    | none =>
      match t.rival? batch e with
      | some r => .error (.ambiguous e.method e.pattern.text r.pattern.text)
      | none => .ok ()

/-- Checks entries in order. -/
def checkAll (t : Table) (batch : List Entry) : List Entry → Except RegisterError Unit
  | [] => .ok ()
  | e :: es =>
    match t.checkEntry batch e with
    | .error err => .error err
    | .ok () => t.checkAll (batch ++ [e]) es

/-- Puts an entry in without checks. -/
def insert (t : Table) (e : Entry) : Table :=
  { t with
    root := t.root.insert e e.pattern.segments
    entries := t.entries ++ [e]
    labels :=
      match e.label with
      | none => t.labels
      | some l => Keyed.put l e t.labels }

/-- Registers entries together: all of them or none. -/
def registerAll (t : Table) (es : List Entry) : Except RegisterError Table :=
  if t.frozen then .error .frozen
  else
    match t.checkAll [] es with
    | .error err => .error err
    | .ok () => .ok (es.foldl insert t)

/-- Registers entries together and reports each. -/
def registerNoting (t : Table) (es : List Entry) (j : Journal) :
    Except RegisterError Table × Journal :=
  match t.registerAll es with
  | .error err => (.error err, j)
  | .ok t => (.ok t, j.logAll (es.map Entry.registered))

/-- Registers one entry. -/
def register (t : Table) (e : Entry) : Except RegisterError Table :=
  t.registerAll [e]

/-- The entry for a method in either case and a pattern that is still to be read. -/
def parseEntry (method path handlerId : String) (level : Access.Level) (label : Option String) :
    Except RegisterError Entry :=
  match Pattern.parse path with
  | .error flaw => .error (.invalid path flaw)
  | .ok p => .ok ⟨upper method, p, handlerId, level, label⟩

/-- No entries are accepted from now on. -/
def freeze (t : Table) : Table :=
  { t with frozen := true }

/-- The path of a labelled route. -/
def urlFor (t : Table) (label : String) (args : Arguments) : Except UrlError String :=
  match args.firstReserved? ["self", "label"] with
  | some name => .error (.fill (.reserved "RouteTable.url_for" name))
  | none =>
    match Keyed.get? label t.labels with
    | none => .error (.unknownLabel label)
    | some e =>
      match e.pattern.fill args with
      | .error err => .error (.fill err)
      | .ok path => .ok path

/-- The entry of a place that serves a method. -/
def serving? (method : String) (place : Place) : Option Entry :=
  match Keyed.get? method place with
  | some e => some e
  | none => if method = "HEAD" then Keyed.get? "GET" place else none

/-- The first candidate that serves the method, or all methods that the candidates have. -/
def pick (method path : String) (allowed : List String) : List (Place × List String) → Outcome
  | [] => if allowed.isEmpty then .noRoute path else .methodNotAllowed path (sortedSet allowed)
  | (place, values) :: rest =>
    match serving? method place with
    | some e => .matched e (e.pattern.names.zip values)
    | none => pick method path (allowed ++ Keyed.keys place) rest

/-- What the table says to a method and a path. -/
def lookup (t : Table) (method path : String) : Outcome :=
  match pathParts? path with
  | none => .noRoute path
  | some parts => pick (upper method) path [] (t.root.candidates [] parts)

end Table

end Waypost.Route
