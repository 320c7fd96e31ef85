import Waypost.Keyed
import Waypost.Text.Identifier
import Waypost.Text.Pieces
import Waypost.Text.Quoted

/-!
# Route patterns

A pattern is a path whose parts are literals, parameters (`:id`) or, in the last place, a tail
(`*rest`). `Pattern.parse` reads one and `Pattern.text` writes it; `Pattern.fill` puts values in the
place of parameters. A part that is empty is a literal and stands only at the end, so `/items` and
`/items/` are two patterns.
-/

namespace Waypost.Route

open Text

/-- One part of a pattern. -/
inductive Segment where
  | literal (value : String)
  | parameter (name : String)
  | tail (name : String)
deriving DecidableEq, Repr

/-- What a part matches, whatever its name. -/
inductive SegmentShape where
  | literal (value : String)
  | parameter
  | tail
deriving DecidableEq, Repr

namespace Segment

/-- The name a part binds. -/
def name? : Segment → Option String
  | .literal _ => none
  | .parameter n => some n
  | .tail n => some n

/-- A part without its name. -/
def shape : Segment → SegmentShape
  | .literal v => .literal v
  | .parameter _ => .parameter
  | .tail _ => .tail

/-- A part as it is written. -/
def text : Segment → String
  | .literal v => v
  | .parameter n => String.ofList (':' :: n.toList)
  | .tail n => String.ofList ('*' :: n.toList)

end Segment

/-- What is wrong with a pattern or with the method it is registered for. -/
inductive Flaw where
  | noSlash
  | emptySegment
  | foreign (part name : String)
  | badName (part : String)
  | repeatedName (name : String)
  | tailNotLast (part : String)
  | unknownMethod (method : String)
  | stated (reason : String)
deriving DecidableEq, Repr

/-- The wording of a flaw. -/
def Flaw.reason : Flaw → String
  | .noSlash => "must start with '/'"
  | .emptySegment => "empty segment in the middle of the path"
  | .foreign part name =>
    quote part ++ " is not flare syntax; use ':" ++ name ++ "' for a parameter or '*" ++ name
      ++ "' for a wildcard tail"
  | .badName part => quote part ++ " needs an identifier name"
  | .repeatedName name => "parameter " ++ quote name ++ " appears more than once"
  | .tailNotLast part => "wildcard " ++ quote part ++ " must be the last segment"
  | .unknownMethod method => "unknown HTTP method " ++ quote method
  | .stated reason => reason

/-- A parsed pattern. -/
structure Pattern where
  segments : List Segment
deriving DecidableEq, Repr

/-- Whether a part stands in brackets of another dialect. -/
def isBracketed (part : List Char) : Bool :=
  (part.head? == some '\x7b' && part.getLast? == some '\x7d')
    || (part.head? == some '<' && part.getLast? == some '>')

/-- The name inside a bracketed part, as advice gives it. -/
def bracketedName (part : List Char) : String :=
  let inner := (part.drop 1).dropLast
  let name := (inner.takeWhile (· ≠ ':'))
  if name.isEmpty then "name" else String.ofList name

/-- Reads one part; `seen` are the names before it and `last` says that no part follows. -/
def parsePart (seen : List String) (last : Bool) (part : String) : Except Flaw Segment :=
  match part.toList with
  | [] => if last then .ok (.literal "") else .error .emptySegment
  | c :: cs =>
    if isBracketed (c :: cs) then .error (.foreign part (bracketedName (c :: cs)))
    else if c = ':' || c = '*' then
      let name := String.ofList cs
      if !isIdentifier cs then .error (.badName part)
      else if seen.contains name then .error (.repeatedName name)
      else if c = ':' then .ok (.parameter name)
      else if last then .ok (.tail name)
      else .error (.tailNotLast part)
    else .ok (.literal part)

/-- Reads the parts of a pattern in order. -/
def parseParts (seen : List String) : List String → Except Flaw (List Segment)
  | [] => .ok []
  | part :: rest =>
    match parsePart seen rest.isEmpty part with
    | .error flaw => .error flaw
    | .ok seg =>
      match parseParts (seg.name?.toList ++ seen) rest with
      | .error flaw => .error flaw
      | .ok segs => .ok (seg :: segs)

/-- The parts of a path that starts with a slash. -/
def pathParts? (path : String) : Option (List String) :=
  match path.toList with
  | '/' :: cs => some (split '/' (String.ofList cs))
  | _ => none

/-- The path with the given parts. -/
def pathOfParts (parts : List String) : String :=
  String.ofList ('/' :: (join '/' parts).toList)

namespace Pattern

/-- Reads a pattern. -/
def parse (path : String) : Except Flaw Pattern :=
  match pathParts? path with
  | none => .error .noSlash
  | some parts =>
    match parseParts [] parts with
    | .error flaw => .error flaw
    | .ok segs => .ok ⟨segs⟩

/-- A pattern as it is written. -/
def text (p : Pattern) : String :=
  pathOfParts (p.segments.map Segment.text)

/-- The names a pattern binds, in order. -/
def names (p : Pattern) : List String :=
  p.segments.filterMap Segment.name?

/-- What a pattern matches, whatever its names. -/
def shape (p : Pattern) : List SegmentShape :=
  p.segments.map Segment.shape

end Pattern

/-- A value given for a parameter. -/
inductive Argument where
  | text (s : String)
  | int (n : Int)
  | bool (b : Bool)
  | none
deriving DecidableEq, Repr

/-- The text that is put into the path. -/
def Argument.toText : Argument → String
  | .text s => s
  | .int n => toString n
  | .bool b => if b then "True" else "False"
  | .none => "None"

/-- Why a path cannot be built. -/
inductive FillError where
  | missing (name pattern : String)
  | notOneSegment (name value : String)
  | emptyTail (name : String)
  | reserved (operation name : String)
deriving DecidableEq, Repr

/-- The wording of the error. -/
def FillError.message : FillError → String
  | .missing name pattern => "Missing parameter " ++ quote name ++ " for route " ++ quote pattern
  | .notOneSegment name value =>
    "Parameter " ++ quote name ++ " must be a single non-empty segment, got " ++ quote value
  | .emptyTail name => "Wildcard " ++ quote name ++ " must not be empty"
  | .reserved operation name =>
    operation ++ "() got multiple values for argument " ++ "'" ++ name ++ "'"

/-- Arguments by name. -/
abbrev Arguments := List (String × Argument)

/-- The first argument whose name an operation keeps for itself. -/
def Arguments.firstReserved? (reserved : List String) (args : Arguments) : Option String :=
  (args.find? fun a => reserved.contains a.1).map Prod.fst

/-- The part of the path that a segment becomes. -/
def Segment.fill (pattern : String) (args : Arguments) : Segment → Except FillError String
  | .literal v => .ok v
  | .parameter n =>
    match Keyed.get? n args with
    | none => .error (.missing n pattern)
    | some a =>
      let v := a.toText
      if v.isEmpty || v.toList.contains '/' then .error (.notOneSegment n v) else .ok v
  | .tail n =>
    match Keyed.get? n args with
    | none => .error (.missing n pattern)
    | some a => if a.toText.isEmpty then .error (.emptyTail n) else .ok a.toText

/-- The parts of the path that segments become. -/
def fillAll (pattern : String) (args : Arguments) : List Segment → Except FillError (List String)
  | [] => .ok []
  | seg :: segs =>
    match seg.fill pattern args with
    | .error e => .error e
    | .ok part =>
      match fillAll pattern args segs with
      | .error e => .error e
      | .ok parts => .ok (part :: parts)

namespace Pattern

/-- The path in which arguments stand for the parameters. The name `self` is taken by the
pattern. -/
def fill (p : Pattern) (args : Arguments) : Except FillError String :=
  match args.firstReserved? ["self"] with
  | some name => .error (.reserved "RoutePattern.build" name)
  | none =>
    match fillAll p.text args p.segments with
    | .error e => .error e
    | .ok parts => .ok (pathOfParts parts)

end Pattern

end Waypost.Route
