import Waypost.Codec.Utf8
import Waypost.Keyed
import Waypost.Text.Case

/-!
# Header blocks

A block is the list of names and values as they came. A key is folded to small letters, and a stored
name is compared with it after folding its ASCII letters; `keys` are the stored names folded as
texts, each once. For names in ASCII the two ways of folding agree.
-/

namespace Waypost

open Codec Text

/-- The headers of a message. -/
structure Headers where
  raw : List (Bytes × Bytes) := []
deriving DecidableEq, Repr, Inhabited

/-- Why headers do not answer. -/
inductive HeaderError where
  | encoding (error : EncodeError)
  | missing (key : String)
deriving DecidableEq, Repr

namespace Headers

/-- A key as stored names are compared with it. -/
def foldKey (key : String) : Except EncodeError Bytes :=
  encode .latin1 (lower key)

/-- A stored name as it is compared with a key. -/
def foldName (name : Bytes) : Bytes :=
  name.map lowerByte

/-- The values stored under a folded name, in order. -/
def valuesOf (h : Headers) (folded : Bytes) : List String :=
  (h.raw.filter fun p => foldName p.1 = folded).map fun p => decodeLatin1 p.2

/-- The first value stored under a name in small ASCII letters. -/
def first? (h : Headers) (name : String) : Option String :=
  (h.valuesOf (encodeUtf8 name)).head?

/-- All values of a key. -/
def getAll (h : Headers) (key : String) : Except EncodeError (List String) :=
  match foldKey key with
  | .error e => .error e
  | .ok folded => .ok (h.valuesOf folded)

/-- The first value of a key. -/
def get? (h : Headers) (key : String) : Except EncodeError (Option String) :=
  match h.getAll key with
  | .error e => .error e
  | .ok vs => .ok vs.head?

/-- The first value of a key that must be there. -/
def get (h : Headers) (key : String) : Except HeaderError String :=
  match h.get? key with
  | .error e => .error (.encoding e)
  | .ok none => .error (.missing key)
  | .ok (some v) => .ok v

/-- Whether a key has a value. -/
def contains (h : Headers) (key : String) : Except EncodeError Bool :=
  match h.get? key with
  | .error e => .error e
  | .ok v => .ok v.isSome

/-- The stored names folded as texts, each once, in the order in which they first come. -/
def keys (h : Headers) : List String :=
  Keyed.keys (h.raw.foldl (fun m p => Keyed.putNew (lower (decodeLatin1 p.1)) () m) [])

/-- The number of keys. -/
def size (h : Headers) : Nat :=
  h.keys.length

/-- The keys with their first values; a key that its own name does not lead to is an error. -/
def pairs (h : Headers) : List String → Except HeaderError (List (String × String))
  | [] => .ok []
  | k :: ks =>
    match h.get k with
    | .error e => .error e
    | .ok v =>
      match h.pairs ks with
      | .error e => .error e
      | .ok rest => .ok ((k, v) :: rest)

/-- A mapping of texts as messages show it. -/
def showPairs (name : String) (ps : List (String × String)) : String :=
  name ++ "(\x7b" ++ ", ".intercalate (ps.map fun p => quote p.1 ++ ": " ++ quote p.2) ++ "\x7d)"

/-- The block as messages show it. -/
def render (h : Headers) : Except HeaderError String :=
  match h.pairs h.keys with
  | .error e => .error e
  | .ok ps => .ok (showPairs "Headers" ps)

/-- The block of names and values given as texts. -/
def ofPairs : List (String × String) → Except EncodeError Headers
  | [] => .ok {}
  | (name, value) :: rest =>
    match foldKey name with
    | .error e => .error e
    | .ok n =>
      match encode .latin1 value with
      | .error e => .error e
      | .ok v =>
        match ofPairs rest with
        | .error e => .error e
        | .ok h => .ok ⟨(n, v) :: h.raw⟩

end Headers

end Waypost
