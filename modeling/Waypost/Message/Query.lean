import Waypost.Codec.Utf8
import Waypost.Message.Headers
import Waypost.Number.Integer
import Waypost.Text.Pieces

/-!
# Query strings

Fields are separated by `&`, a name ends at the first `=`, a plus sign stands for a blank, and
escapes such as `%C3%A9` are the bytes of UTF-8 text. Fields without content are skipped; values of
one name are kept together in order.
-/

namespace Waypost

open Codec Text

/-- The bytes of a text in which `%` and two digits stand for a byte. The text is in ASCII. -/
def percentBytes : List Char → Bytes
  | [] => []
  | '%' :: a :: b :: cs =>
    match hexValue? a, hexValue? b with
    | some x, some y => UInt8.ofNat (x * 16 + y) :: percentBytes cs
    | _, _ => 37 :: percentBytes (a :: b :: cs)
  | c :: cs => UInt8.ofNat c.toNat :: percentBytes cs
termination_by cs => cs.length

/-- The text of a run of ASCII characters, given backwards. -/
def percentRun (run : List Char) : List Char :=
  replaceUtf8From 0 (percentBytes run.reverse)

/-- Resolves the escapes of each run of ASCII characters; `run` is the run so far, backwards. -/
def percentDecodeFrom (run : List Char) : List Char → List Char
  | [] => percentRun run
  | c :: cs =>
    if c.toNat < 128 then percentDecodeFrom (c :: run) cs
    else percentRun run ++ c :: percentDecodeFrom [] cs

/-- Resolves the escapes of a text. -/
def percentDecode (cs : List Char) : List Char :=
  percentDecodeFrom [] cs

/-- The text of a part of a field. -/
def fieldText (cs : List Char) : String :=
  String.ofList (percentDecode (cs.map fun c => if c = '+' then ' ' else c))

/-- The name and value of a field. -/
def readField (cs : List Char) : String × String :=
  match cutChars? '=' cs with
  | none => (fieldText cs, "")
  | some (n, v) => (fieldText n, fieldText v)

/-- The parameters of a request. -/
structure Query where
  raw : Bytes := []
  /-- The values of each name. -/
  fields : List (String × List String) := []
deriving DecidableEq, Repr, Inhabited

namespace Query

/-- Adds a value to a name. -/
def add (m : List (String × List String)) (f : String × String) : List (String × List String) :=
  Keyed.put f.1 ((Keyed.get? f.1 m).getD [] ++ [f.2]) m

/-- Reads a query string. -/
def ofBytes (bs : Bytes) : Query where
  raw := bs
  fields :=
    (((splitChars '&' (decodeLatin1 bs).toList).filter fun f => !f.isEmpty).map readField).foldl
      add []

/-- All values of a name. -/
def getAll (q : Query) (key : String) : List String :=
  (Keyed.get? key q.fields).getD []

/-- The first value of a name. -/
def get? (q : Query) (key : String) : Option String :=
  (q.getAll key).head?

/-- Whether a name has a value. -/
def contains (q : Query) (key : String) : Bool :=
  Keyed.has key q.fields

/-- The number a name has for its first value, if that is one. -/
def getInt? (q : Query) (key : String) : Option Int :=
  (q.get? key).bind fun v => (Number.readInteger v).toOption

/-- The parameters as messages show them. -/
def render (q : Query) : String :=
  Headers.showPairs "QueryParams" (q.fields.map fun f => (f.1, f.2.headD ""))

end Query

end Waypost
