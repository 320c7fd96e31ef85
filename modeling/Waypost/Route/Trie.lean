import Waypost.Keyed
import Waypost.Route.Entry

/-!
# The trie of patterns

A node stands for the parts of a pattern read so far. `Node.insert` puts an entry where its pattern
ends, `Node.find` looks that place up, and `Node.candidates` walks a concrete path: literals are
tried before the parameter and the parameter before the tail, so places come out with the most
specific first.
-/

namespace Waypost.Route

open Text

/-- The entries at one place, by method. -/
abbrev Place := List (String × Entry)

/-- A node of the trie. -/
structure Node where
  /-- What follows a literal part. -/
  literals : List (String × Node)
  /-- What follows a parameter, whatever its name. -/
  parameter : Option Node
  /-- Entries whose pattern ends here in a tail. -/
  tails : Place
  /-- Entries whose pattern ends here. -/
  ends : Place
deriving Inhabited

namespace Node

/-- A node with nothing below it. -/
def empty : Node := ⟨[], none, [], []⟩

/-- The place at which a pattern ends, or no entries if no pattern has come that far. -/
def find : List Segment → Node → Place
  | [], n => n.ends
  | .tail _ :: _, n => n.tails
  | .parameter _ :: segs, n =>
    match n.parameter with
    | none => []
    | some c => find segs c
  | .literal v :: segs, n =>
    match Keyed.get? v n.literals with
    | none => []
    | some c => find segs c

/-- Puts an entry at the place where its pattern ends. -/
def insert (e : Entry) : List Segment → Node → Node
  | [], n => ⟨n.literals, n.parameter, n.tails, Keyed.put e.method e n.ends⟩
  | .tail _ :: _, n => ⟨n.literals, n.parameter, Keyed.put e.method e n.tails, n.ends⟩
  | .parameter _ :: segs, n =>
    ⟨n.literals, some (insert e segs (n.parameter.getD empty)), n.tails, n.ends⟩
  | .literal v :: segs, n =>
    let child := insert e segs ((Keyed.get? v n.literals).getD empty)
    ⟨Keyed.put v child n.literals, n.parameter, n.tails, n.ends⟩

/-- The places that the parts of a path lead to, each with the values bound on the way, the most
specific first. -/
def candidates (values : List String) : List String → Node → List (Place × List String)
  | [], n => if n.ends.isEmpty then [] else [(n.ends, values)]
  | part :: parts, n =>
    let byLiteral :=
      match Keyed.get? part n.literals with
      | none => []
      | some c => candidates values parts c
    let byParameter :=
      if part.isEmpty then []
      else
        match n.parameter with
        | none => []
        | some c => candidates (values ++ [part]) parts c
    let rest := join '/' (part :: parts)
    let byTail :=
      if n.tails.isEmpty || rest.isEmpty then [] else [(n.tails, values ++ [rest])]
    byLiteral ++ byParameter ++ byTail

end Node

end Waypost.Route
