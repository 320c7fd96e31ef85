import Waypost.Text.Blank
import Waypost.Text.Digit
import Waypost.Text.Quoted

/-!
# Reading integers

An integer is an optional sign and digits of any script, with single underscores allowed between
digits and blanks allowed around it. More than `maxDigits` digits are refused.
-/

namespace Waypost.Number

open Text

/-- The largest number of digits that is read. -/
def maxDigits : Nat := 4300

/-- Why a text is not read as an integer. -/
inductive IntegerError where
  | malformed (text : String)
  | tooLong (digits : Nat)
deriving DecidableEq, Repr

/-- The wording of the error. At most two hundred characters of the quoted text are shown. -/
def IntegerError.message : IntegerError → String
  | .malformed text =>
    "invalid literal for int() with base 10: " ++ String.ofList ((quote text).toList.take 200)
  | .tooLong digits =>
    "Exceeds the limit (" ++ toString maxDigits ++
      " digits) for integer string conversion: value has "
      ++ toString digits ++ " digits; use sys.set_int_max_str_digits() to increase the limit"

/-- Blanks that may surround a number: all but the separators U+001C to U+001F. -/
def isNumberBlank (c : Char) : Bool :=
  isBlank c && !(28 ≤ c.toNat && c.toNat ≤ 31)

/-- The leading digits with their underscores: the value, the number of digits and the rest. Fails
on an underscore that has no digit on either side. -/
def readDigits? (value count : Nat) (afterDigit : Bool) : List Char → Option (Nat × Nat × List Char)
  | [] => if afterDigit then some (value, count, []) else none
  | c :: cs =>
    match digitValue? c with
    | some d => readDigits? (value * 10 + d) (count + 1) true cs
    | none =>
      if c = '_' then if afterDigit then readDigits? value count false cs else none
      else if afterDigit then some (value, count, c :: cs)
      else none

/-- The sign of a number and what follows it. -/
def readSign : List Char → Bool × List Char
  | '-' :: cs => (true, cs)
  | '+' :: cs => (false, cs)
  | cs => (false, cs)

/-- Reads an integer. -/
def readInteger (s : String) : Except IntegerError Int :=
  let (negative, body) := readSign (s.toList.dropWhile isNumberBlank)
  match readDigits? 0 0 false body with
  | none => .error (.malformed s)
  | some (value, count, rest) =>
    if count > maxDigits then .error (.tooLong count)
    else if rest.all isNumberBlank then .ok (if negative then -(value : Int) else value)
    else .error (.malformed s)

end Waypost.Number
