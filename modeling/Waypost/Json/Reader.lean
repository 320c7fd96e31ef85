import Waypost.Codec.Unicode
import Waypost.Json.Value

/-!
# Reading JSON

A reader that says where and why a text is not JSON. Besides the grammar it takes `NaN`, `Infinity`
and `-Infinity`; the last of several members with one key counts. Arrays and objects may not be
nested too deeply.
-/

namespace Waypost.Json

open Text Number

/-- What is wrong with a text. -/
inductive Problem where
  | value
  | propertyName
  | colon
  | comma
  | extraData
  | controlCharacter
  | escape
  | unicodeEscape
  | unterminated
  | byteOrderMark
deriving DecidableEq, Repr

/-- The wording of the problem. -/
def Problem.message : Problem → String
  | .value => "Expecting value"
  | .propertyName => "Expecting property name enclosed in double quotes"
  | .colon => "Expecting ':' delimiter"
  | .comma => "Expecting ',' delimiter"
  | .extraData => "Extra data"
  | .controlCharacter => "Invalid control character at"
  | .escape => "Invalid \\escape"
  | .unicodeEscape => "Invalid \\uXXXX escape"
  | .unterminated => "Unterminated string starting at"
  | .byteOrderMark => "Unexpected UTF-8 BOM (decode using utf-8-sig)"

/-- What can hold other values. -/
inductive Holder where
  | array
  | object
deriving DecidableEq, Repr

/-- Why a text is not read: a problem at a position, a number with too many digits, or a value that
is nested too deeply. -/
inductive ReadError where
  | syntactic (problem : Problem) (line column position : Nat)
  | number (error : IntegerError)
  | tooDeep (holder : Holder)
deriving DecidableEq, Repr

/-- The wording of the error. -/
def ReadError.message : ReadError → String
  | .syntactic p line column position =>
    p.message ++ ": line " ++ toString line ++ " column " ++ toString column ++ " (char " ++
      toString position ++ ")"
  | .number e => e.message
  | .tooDeep holder =>
    "maximum recursion depth exceeded while decoding a JSON "
      ++ (match holder with | .array => "array" | .object => "object") ++ " from a unicode string"

/-- A stop inside the reader: a problem at a position, a number with too many digits, or a value
that is nested too deeply. -/
inductive Stop where
  | problem (p : Problem) (position : Nat)
  | number (error : IntegerError)
  | tooDeep (holder : Holder)

/-- A position in the text and what follows it. -/
structure Cursor where
  pos : Nat
  rest : List Char

/-- The cursor `n` characters further on. -/
def Cursor.skip (c : Cursor) (n : Nat) : Cursor := ⟨c.pos + n, c.rest.drop n⟩

/-- What a reader of `α` gives. -/
abbrev Reading (α : Type) := Except Stop (α × Cursor)

/-- Whether a character may stand between tokens. -/
def isSpace (c : Char) : Bool :=
  c = ' ' || c = '\t' || c = '\n' || c = '\r'

/-- The cursor after the spaces at it. -/
def Cursor.skipSpace (c : Cursor) : Cursor :=
  c.skip (c.rest.takeWhile isSpace).length

/-- The number that four hexadecimal digits stand for. -/
def fourDigits? : List Char → Option Nat
  | a :: b :: c :: d :: _ => do
    let a ← hexValue? a
    let b ← hexValue? b
    let c ← hexValue? c
    let d ← hexValue? d
    return ((a * 16 + b) * 16 + c) * 16 + d
  | _ => none

/-- The character that a letter after a backslash stands for. -/
def shortEscape? (c : Char) : Option Char :=
  if c = '"' || c = '\\' || c = '/' then some c
  else if c = 'b' then some (Char.ofNat 8)
  else if c = 'f' then some (Char.ofNat 12)
  else if c = 'n' then some '\n'
  else if c = 'r' then some '\r'
  else if c = 't' then some '\t'
  else none

/-- A code unit as a character; a surrogate that stands alone gives U+FFFD. -/
def unitChar (n : Nat) : Char :=
  if 0xD800 ≤ n && n < 0xE000 then Char.ofNat 0xFFFD else Char.ofNat n

/-- The character of an escape of four digits at position `pos`, just after the `u`, and how many
characters it takes. -/
def unicodeEscape (pos : Nat) (cs : List Char) : Except Stop (Char × Nat) :=
  if (cs.drop 4).isEmpty then .error (.problem .unicodeEscape (pos - 1))
  else
    match fourDigits? cs with
    | none => .error (.problem .unicodeEscape (pos - 1))
    | some n =>
      match cs.drop 4 with
      | '\\' :: 'u' :: more =>
        if 0xD800 ≤ n && n < 0xDC00 && !(more.drop 4).isEmpty then
          match fourDigits? more with
          | none => .error (.problem .unicodeEscape (pos + 5))
          | some m =>
            if 0xDC00 ≤ m && m < 0xE000 then
              .ok (Char.ofNat (0x10000 + (n - 0xD800) * 0x400 + (m - 0xDC00)), 10)
            else .ok (unitChar n, 4)
        else .ok (unitChar n, 4)
      | _ => .ok (unitChar n, 4)

/-- Reads a string up to its closing quote. `start` is the position of the opening quote, `skip`
counts characters that an escape has used up, and `acc` holds what is read, the last character
first. -/
def readString (start pos skip : Nat) (acc : List Char) : List Char → Reading String
  | [] => .error (.problem .unterminated start)
  | c :: cs =>
    match skip with
    | k + 1 => readString start (pos + 1) k acc cs
    | 0 =>
      if c = '"' then .ok (String.ofList acc.reverse, ⟨pos + 1, cs⟩)
      else if c = '\\' then
        match cs with
        | [] => .error (.problem .unterminated start)
        | e :: more =>
          if e = 'u' then
            match unicodeEscape (pos + 2) more with
            | .ok (d, n) => readString start (pos + 1) (n + 1) (d :: acc) cs
            | .error stop => .error stop
          else
            match shortEscape? e with
            | some d => readString start (pos + 1) 1 (d :: acc) cs
            | none => .error (.problem .escape pos)
      else if c.toNat < 32 then .error (.problem .controlCharacter pos)
      else readString start (pos + 1) 0 (c :: acc) cs

/-- Whether a character is one of the digits 0 to 9. -/
def isDigit (c : Char) : Bool :=
  '0' ≤ c && c ≤ '9'

/-- The number that digits stand for, going on from `value`. -/
def digitsValue (value : Nat) (ds : List Char) : Nat :=
  ds.foldl (fun v d => v * 10 + (d.toNat - 48)) value

/-- The digits of a fraction, if a point and a digit follow. -/
def fractionDigits : List Char → List Char
  | '.' :: cs => cs.takeWhile isDigit
  | _ => []

/-- The sign and the digits of an exponent, if a mark and a digit follow, and how many characters
they take. -/
def exponentPart : List Char → Option (Int × Nat)
  | c :: cs =>
    if c = 'e' || c = 'E' then
      let (negative, body) := readSign cs
      let ds := body.takeWhile isDigit
      if ds.isEmpty then none
      else
        let v : Int := digitsValue 0 ds
        some (if negative then -v else v, 1 + (cs.length - body.length) + ds.length)
    else none
  | [] => none

/-- Reads a number. -/
def readNumber (c : Cursor) : Reading Json :=
  let (negative, body) :=
    match c.rest with
    | '-' :: cs => (true, cs)
    | cs => (false, cs)
  let signLength := if negative then 1 else 0
  let whole :=
    match body with
    | '0' :: _ => ['0']
    | cs => cs.takeWhile isDigit
  if whole.isEmpty then .error (.problem .value c.pos)
  else
    let afterWhole := body.drop whole.length
    let places := fractionDigits afterWhole
    let placesLength := if places.isEmpty then 0 else places.length + 1
    let x? := exponentPart (afterWhole.drop placesLength)
    let stop := c.skip (signLength + whole.length + placesLength + (x?.map Prod.snd).getD 0)
    if places.isEmpty && x?.isNone then
      if whole.length > maxDigits then .error (.number (.tooLong whole.length))
      else
        let v : Int := digitsValue 0 whole
        .ok (.int (if negative then -v else v), stop)
    else
      let e := (x?.map Prod.fst).getD 0 - places.length
      .ok (.float (Binary64.ofDecimal negative (digitsValue 0 (whole ++ places)) e), stop)

/-- The words that stand for values. -/
def wordAt? (cs : List Char) : Option (Json × Nat) :=
  if "null".toList.isPrefixOf cs then some (.null, 4)
  else if "true".toList.isPrefixOf cs then some (.bool true, 4)
  else if "false".toList.isPrefixOf cs then some (.bool false, 5)
  else if "NaN".toList.isPrefixOf cs then some (.float .nan, 3)
  else if "Infinity".toList.isPrefixOf cs then some (.float (.infinity false), 8)
  else if "-Infinity".toList.isPrefixOf cs then some (.float (.infinity true), 9)
  else none

/-- Reads a value that is neither an array nor an object nor a string. -/
def readScalar (c : Cursor) : Reading Json :=
  match wordAt? c.rest with
  | some (v, n) => .ok (v, c.skip n)
  | none => readNumber c

/-- How deeply arrays and objects may be nested. -/
def maxDepth : Nat := 985

mutual

/-- Reads a value inside of which arrays and objects may be nested `depth` deep. Every call uses up
one unit of fuel; twice the number of characters is enough. -/
def readValue : Nat → Nat → Cursor → Reading Json
  | 0, _, c => .error (.problem .value c.pos)
  | fuel + 1, depth, c =>
    match c.rest with
    | '"' :: cs =>
      match readString c.pos (c.pos + 1) 0 [] cs with
      | .ok (s, c) => .ok (.text s, c)
      | .error stop => .error stop
    | '[' :: cs =>
      match depth with
      | 0 => .error (.tooDeep .array)
      | depth + 1 =>
        let c := Cursor.skipSpace ⟨c.pos + 1, cs⟩
        match c.rest with
        | ']' :: cs => .ok (.array [], ⟨c.pos + 1, cs⟩)
        | _ => readItems fuel depth c []
    | '\x7b' :: cs =>
      match depth with
      | 0 => .error (.tooDeep .object)
      | depth + 1 =>
        let c := Cursor.skipSpace ⟨c.pos + 1, cs⟩
        match c.rest with
        | '\x7d' :: cs => .ok (.object [], ⟨c.pos + 1, cs⟩)
        | _ => readMembers fuel depth c []
    | _ => readScalar c

/-- Reads the items of an array, `acc` being those before, the last first. -/
def readItems : Nat → Nat → Cursor → List Json → Reading Json
  | 0, _, c, _ => .error (.problem .value c.pos)
  | fuel + 1, depth, c, acc =>
    match readValue fuel depth c with
    | .error stop => .error stop
    | .ok (v, c) =>
      let c := c.skipSpace
      match c.rest with
      | ']' :: cs => .ok (.array (v :: acc).reverse, ⟨c.pos + 1, cs⟩)
      | ',' :: cs => readItems fuel depth (Cursor.skipSpace ⟨c.pos + 1, cs⟩) (v :: acc)
      | _ => .error (.problem .comma c.pos)

/-- Reads the members of an object, `acc` being those before. -/
def readMembers : Nat → Nat → Cursor → List (String × Json) → Reading Json
  | 0, _, c, _ => .error (.problem .value c.pos)
  | fuel + 1, depth, c, acc =>
    match c.rest with
    | '"' :: cs =>
      match readString c.pos (c.pos + 1) 0 [] cs with
      | .error stop => .error stop
      | .ok (key, c) =>
        let c := c.skipSpace
        match c.rest with
        | ':' :: cs =>
          match readValue fuel depth (Cursor.skipSpace ⟨c.pos + 1, cs⟩) with
          | .error stop => .error stop
          | .ok (v, c) =>
            let c := c.skipSpace
            let acc := Keyed.put key v acc
            match c.rest with
            | '\x7d' :: cs => .ok (.object acc, ⟨c.pos + 1, cs⟩)
            | ',' :: cs => readMembers fuel depth (Cursor.skipSpace ⟨c.pos + 1, cs⟩) acc
            | _ => .error (.problem .comma c.pos)
        | _ => .error (.problem .colon c.pos)
    | _ => .error (.problem .propertyName c.pos)

end

/-- The error for a stop in the text `cs`, with the line and column of its position. -/
def Stop.toError (cs : List Char) : Stop → ReadError
  | .problem p pos =>
    let before := cs.take pos
    let column := (before.reverse.takeWhile (· ≠ '\n')).length + 1
    .syntactic p (before.count '\n' + 1) column pos
  | .number e => .number e
  | .tooDeep holder => .tooDeep holder

/-- Reads the characters of a document. -/
def readChars (cs : List Char) : Except ReadError Json :=
  match readValue (2 * cs.length + 2) maxDepth (Cursor.skipSpace ⟨0, cs⟩) with
  | .error stop => .error (stop.toError cs)
  | .ok (v, c) =>
    let c := c.skipSpace
    if c.rest.isEmpty then .ok v else .error ((Stop.problem .extraData c.pos).toError cs)

/-- Reads a document. -/
def read (s : String) : Except ReadError Json :=
  match s.toList with
  | c :: cs =>
    if c = Char.ofNat 0xFEFF then .error ((Stop.problem .byteOrderMark 0).toError (c :: cs))
    else readChars (c :: cs)
  | [] => readChars []

/-- Why bytes are not read as a document. -/
inductive DocumentError where
  | encoding (error : Codec.DecodeError)
  | content (error : ReadError)
deriving DecidableEq, Repr

/-- The wording of the error. -/
def DocumentError.message : DocumentError → String
  | .encoding e => e.message
  | .content e => e.message

/-- Reads a document given as bytes. -/
def readBytes (bs : Bytes) : Except DocumentError Json :=
  match Codec.decodeDocument bs with
  | .error e => .error (.encoding e)
  | .ok s =>
    match readChars s.toList with
    | .ok v => .ok v
    | .error e => .error (.content e)

end Waypost.Json
