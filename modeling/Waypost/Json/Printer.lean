import Waypost.Json.Value

/-!
# Writing JSON

A `Style` says how items are separated and whether characters beyond ASCII are escaped. `Style.wide`
is what response bodies use and `Style.compact` what signed tokens use.
-/

namespace Waypost.Json

open Text

/-- The choices in writing JSON. -/
structure Style where
  /-- Between two items. -/
  comma : String
  /-- Between a key and its value. -/
  colon : String
  /-- Whether everything beyond ASCII, and U+007F, is escaped. -/
  asciiOnly : Bool
deriving DecidableEq, Repr

/-- Blanks after separators, ASCII only. -/
def Style.wide : Style := ⟨", ", ": ", true⟩

/-- No blanks, characters beyond ASCII as they are. -/
def Style.compact : Style := ⟨",", ":", false⟩

/-- A code unit as an escape of four digits. -/
def escapeUnit (n : Nat) : List Char :=
  '\\' :: 'u' :: hexDigits 4 n

/-- A code point as one escape, or as two for a surrogate pair. -/
def escapePoint (n : Nat) : List Char :=
  if n < 0x10000 then escapeUnit n
  else escapeUnit (0xD800 + (n - 0x10000) / 0x400) ++ escapeUnit (0xDC00 + (n - 0x10000) % 0x400)

/-- A character inside a string. -/
def escapeChar (asciiOnly : Bool) (c : Char) : List Char :=
  if c = '"' then ['\\', '"']
  else if c = '\\' then ['\\', '\\']
  else if c = '\n' then ['\\', 'n']
  else if c = '\r' then ['\\', 'r']
  else if c = '\t' then ['\\', 't']
  else if c.toNat = 8 then ['\\', 'b']
  else if c.toNat = 12 then ['\\', 'f']
  else if c.toNat < 32 || (asciiOnly && 126 < c.toNat) then escapePoint c.toNat
  else [c]

/-- A string with its quotes. -/
def quoteText (asciiOnly : Bool) (s : String) : String :=
  String.ofList ('"' :: s.toList.flatMap (escapeChar asciiOnly) ++ ['"'])

/-- A number of the binary format. -/
def renderFloat : Number.Binary64 → String
  | .nan => "NaN"
  | .infinity negative => if negative then "-Infinity" else "Infinity"
  | x => x.render

mutual

/-- The text of a value. -/
def render (style : Style) : Json → String
  | .null => "null"
  | .bool b => if b then "true" else "false"
  | .int n => toString n
  | .float x => renderFloat x
  | .text s => quoteText style.asciiOnly s
  | .array xs => "[" ++ renderItems style true xs ++ "]"
  | .object ms => "\x7b" ++ renderMembers style true ms ++ "\x7d"

/-- The items of an array; `first` says that no separator stands before them. -/
def renderItems (style : Style) (first : Bool) : List Json → String
  | [] => ""
  | x :: xs => (if first then "" else style.comma) ++ render style x ++ renderItems style false xs

/-- The members of an object. -/
def renderMembers (style : Style) (first : Bool) : List (String × Json) → String
  | [] => ""
  | (k, v) :: ms =>
    (if first then "" else style.comma) ++ quoteText style.asciiOnly k ++ style.colon ++
      render style v
      ++ renderMembers style false ms

end

end Waypost.Json
