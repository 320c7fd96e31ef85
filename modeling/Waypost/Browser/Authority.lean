import Waypost.Browser.Host
import Waypost.Text.Quoted
import Waypost.Text.Ranges

/-!
# Authorities

The authority of an URL names a server: a user, a host and a port. `checkAuthority` refuses one that
could be read in two ways: brackets that do not hold an address and nothing else, and letters that
look like a mark which ends an authority.
-/

namespace Waypost.Browser

open Text

/-- Why an authority cannot be trusted. -/
inductive AuthorityError where
  | brackets
  | futureAddress
  | fourPartAddress
  | address (text : String)
  | lookalike (authority : String)
deriving DecidableEq, Repr

/-- The wording of the error. -/
def AuthorityError.message : AuthorityError → String
  | .brackets => "Invalid IPv6 URL"
  | .futureAddress => "IPvFuture address is invalid"
  | .fourPartAddress => "An IPv4 address cannot be in brackets"
  | .address text => quote text ++ " does not appear to be an IPv4 or IPv6 address"
  | .lookalike authority =>
    "netloc '" ++ authority ++ "' contains invalid characters under NFKC normalization"

/-- Letters that stand for a text with a slash, a question mark, a number sign, an at sign or a
colon in it. -/
def lookalikeRanges : List (Nat × Nat) :=
  [(8263, 8265), (8448, 8449), (8453, 8454), (10868, 10868), (65043, 65043), (65046, 65046),
   (65109, 65110), (65119, 65119), (65131, 65131), (65283, 65283), (65295, 65295), (65306, 65306),
   (65311, 65312)]

/-- Whether a letter can be taken for a mark that ends an authority. -/
def isLookalike (c : Char) : Bool := within lookalikeRanges c.toNat

/-- Whether a text is an address of a version that is still to come: a version in hexadecimal
digits, a point and more. -/
def isFutureAddress (cs : List Char) : Bool :=
  match cs with
  | 'v' :: rest =>
    match rest.span fun c => (hexValue? c).isSome with
    | (_ :: _, '.' :: _ :: _) => true
    | _ => false
  | _ => false

/-- Checks what stands in brackets. -/
def checkBracketed (cs : List Char) : Except AuthorityError Unit :=
  if cs.head? = some 'v' then if isFutureAddress cs then .ok () else .error .futureAddress
  else if isFourPart cs then .error .fourPartAddress
  else if isEightGroup cs then .ok ()
  else .error (.address (String.ofList cs))

/-- Checks the brackets of a host and a port: nothing stands before them, and nothing but a port
after them. -/
def checkBrackets (place : List Char) : Except AuthorityError Unit :=
  match cutChars? '[' place with
  | none => checkBracketed (((cutChars? ':' place).map Prod.fst).getD place)
  | some (before, rest) =>
    let (host, port) := (cutChars? ']' rest).getD (rest, [])
    if !before.isEmpty || !(port.isEmpty || port.head? = some ':') then .error .brackets
    else checkBracketed host

/-- Checks an authority. -/
def checkAuthority (cs : List Char) : Except AuthorityError Unit := do
  if cs.contains '[' ≠ cs.contains ']' then throw .brackets
  if cs.contains '[' then
    checkBrackets (((cutChars? '@' cs.reverse).map fun r => r.1.reverse).getD cs)
  if cs.any isLookalike then throw (.lookalike (String.ofList cs))

end Waypost.Browser
