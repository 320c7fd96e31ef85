import Waypost.Text.Hex
import Waypost.Text.Printable

/-!
# Quoted texts

How messages show a text: between single quotes, or double quotes when the text holds a single quote
and no double one. The quote in use, the backslash and everything that does not print are escaped.
-/

namespace Waypost.Text

/-- The quote a text is shown in. -/
def quoteFor (cs : List Char) : Char :=
  if cs.contains '\'' && !cs.contains '"' then '"' else '\''

/-- A character that does not print, by its code point in two, four or eight digits. -/
def escapeCode (n : Nat) : List Char :=
  if n < 0x100 then '\\' :: 'x' :: hexDigits 2 n
  else if n < 0x10000 then '\\' :: 'u' :: hexDigits 4 n
  else '\\' :: 'U' :: hexDigits 8 n

/-- A character as it stands between the quotes `q`; `plain` says what prints as itself. -/
def escapeChar (plain : Char → Bool) (q c : Char) : List Char :=
  if c = q || c = '\\' then ['\\', c]
  else if c = '\n' then ['\\', 'n']
  else if c = '\r' then ['\\', 'r']
  else if c = '\t' then ['\\', 't']
  else if plain c then [c]
  else escapeCode c.toNat

/-- The characters of a text between its quotes. -/
def quoteChars (plain : Char → Bool) (cs : List Char) : List Char :=
  let q := quoteFor cs
  q :: cs.flatMap (escapeChar plain q) ++ [q]

/-- A text as messages show it. -/
def quote (s : String) : String :=
  String.ofList (quoteChars isPrintable s.toList)

/-- A code point as it stands between the quotes `q`. A half of a pair of units does not print. -/
def escapePoint (q : Char) (n : CodePoint) : List Char :=
  if n.isValidChar then escapeChar isPrintable q (Char.ofNat n) else escapeCode n

/-- A text of code points as messages show it. -/
def quotePoints (ns : List CodePoint) : String :=
  let q := quoteFor (ns.map Char.ofNat)
  String.ofList (q :: ns.flatMap (escapePoint q) ++ [q])

/-- Bytes as messages show them: like a text in which only ASCII prints, after the letter `b`. -/
def quoteBytes (bs : List UInt8) : String :=
  let cs := bs.map fun b => Char.ofNat b.toNat
  String.ofList ('b' :: quoteChars (fun c => 32 ≤ c.toNat && c.toNat < 127) cs)

end Waypost.Text
