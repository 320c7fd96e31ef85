import Waypost.Browser.Host
import Waypost.Browser.Label
import Waypost.Codec.Utf8
import Waypost.Message.Query
import Waypost.Number.Integer
import Waypost.Text.Case

/-!
# URLs

An URL is read into its parts, each in its normal form: scheme and host in small letters, no port
where it is the scheme's own, no dot segments in the path, and everything that may not stand as it
is in percent escapes. `Url.join` puts a path after a base.
-/

namespace Waypost.Browser

open Codec Text

/-- Why a text is not an URL. -/
inductive UrlError where
  | tooLong
  | control (c : Char) (position : Nat)
  /-- A part, by its name, that is too long. -/
  | partTooLong (part : String)
  /-- A part, by its name, with a control character in it. -/
  | controlIn (part : String) (c : Char) (position : Nat)
  | port (text : String)
  /-- An address of a version, 4 or 6, that is none. -/
  | address (version : Nat) (host : String)
  | name (host : String)
  | slashMissing
  | doubleSlash
  | colon
deriving DecidableEq, Repr

/-- The wording of the error. -/
def UrlError.message : UrlError → String
  | .tooLong => "URL too long"
  | .control c position =>
    "Invalid non-printable ASCII character in URL, " ++ quote (String.ofList [c]) ++ " at position "
      ++ toString position ++ "."
  | .partTooLong part => "URL component '" ++ part ++ "' too long"
  | .controlIn part c position =>
    "Invalid non-printable ASCII character in URL " ++ part ++ " component, " ++
      quote (String.ofList [c]) ++ " at position "
      ++ toString position ++ "."
  | .port text => "Invalid port: " ++ quote text
  | .address version host => "Invalid IPv" ++ toString version ++ " address: " ++ quote host
  | .name host => "Invalid IDNA hostname: " ++ quote host
  | .slashMissing => "For absolute URLs, path must be empty or begin with '/'"
  | .doubleSlash => "Relative URLs cannot have a path starting with '//'"
  | .colon => "Relative URLs cannot have a path starting with ':'"

/-- An URL in its parts. -/
structure Url where
  scheme : String := ""
  userInfo : String := ""
  host : String := ""
  port : Option Int := none
  path : String := ""
  query : Option String := none
  fragment : Option String := none
deriving DecidableEq, Repr, Inhabited

/-- The largest number of characters of an URL. -/
def maxUrlLength : Nat := 65536

/-- A byte as an escape. -/
def escapeByte (b : UInt8) : List Char :=
  '%' :: (hexDigits 2 b.toNat).map Char.toUpper

/-- A character, escaped unless it may stand as it is. -/
def escapeUnless (safe : Char → Bool) (c : Char) : List Char :=
  if safe c then [c] else (encodeUtf8Char c).flatMap escapeByte

/-- Escapes what may not stand as it is; escapes that are there stay. -/
def escapeText (safe : Char → Bool) (s : String) : String :=
  let rec go : Nat → List Char → List Char
    | _, [] => []
    | skip + 1, c :: cs => c :: go skip cs
    | 0, c :: cs =>
      match c, cs with
      | '%', a :: b :: _ =>
        if (hexValue? a).isSome && (hexValue? b).isSome then c :: go 2 cs
        else escapeUnless safe c ++ go 0 cs
      | _, _ => escapeUnless safe c ++ go 0 cs
  String.ofList (go 0 s.toList)

/-- Printable ASCII characters other than the given ones. -/
def asciiExcept (others : String) (c : Char) : Bool :=
  0x20 ≤ c.toNat && c.toNat < 0x7F && !others.toList.contains c

/-- What may stand in a fragment. -/
def fragmentSafe : Char → Bool := asciiExcept " \"<>\x60"

/-- What may stand in a query. -/
def querySafe : Char → Bool := asciiExcept " \"#<>"

/-- What may stand in a path. -/
def pathSafe : Char → Bool := asciiExcept " \"#<>?\x60\x7b\x7d"

/-- What may stand before the host. -/
def userSafe : Char → Bool := asciiExcept " \"#<>?\x60\x7b\x7d/;=@[\\]^|"

/-- What may stand in a host. -/
def hostSafe (c : Char) : Bool :=
  c.isAlphanum || "-._~!$&'()*+,;=\"\x60\x7b\x7d%|\\".toList.contains c

/-- The ports that schemes have for their own. -/
def ownPort? : String → Option Int
  | "http" => some 80
  | "https" => some 443
  | "ws" => some 80
  | "wss" => some 443
  | "ftp" => some 21
  | _ => none

/-- What stands before the first of some characters, and the rest. -/
def spanUntil (stops : List Char) (cs : List Char) : List Char × List Char :=
  cs.span fun c => !stops.contains c

/-- The scheme of an URL and what follows it. -/
def splitScheme (cs : List Char) : String × List Char :=
  match cs.span fun c => c.isAlphanum || c = '+' || c = '.' || c = '-' with
  | (name, ':' :: rest) =>
    match name with
    | [] => ("", rest)
    | c :: _ => if c.isAlpha then (String.ofList name, rest) else ("", cs)
  | _ => ("", cs)

/-- What stands between two slashes and the path, and what follows it. -/
def splitAuthority : List Char → List Char × List Char
  | '/' :: '/' :: rest => spanUntil ['/', '?', '#'] rest
  | cs => ([], cs)

/-- The part after a mark, up to a stop. -/
def splitAfter (mark : Char) (stops : List Char) : List Char → Option String × List Char
  | c :: cs =>
    if c = mark then
      let (part, rest) := spanUntil stops cs
      (some (String.ofList part), rest)
    else (none, c :: cs)
  | [] => (none, [])

/-- The user, the host and the port of an authority. -/
def splitUser (cs : List Char) : List Char × List Char × List Char :=
  let (user, rest) :=
    match cutChars? '@' cs.reverse with
    | none => ([], cs)
    | some (after, before) => (before.reverse, after.reverse)
  let (host, port) :=
    match rest.head?, cutChars? ']' rest.reverse with
    | some '[', some (after, before) => (before.reverse ++ [']'], after.reverse)
    | _, _ => spanUntil [':'] rest
  (user, host, match port with | ':' :: p => p | p => p)

/-- The normal form of a host. -/
def normalHost (host : String) : Except UrlError String :=
  let cs := host.toList
  if isQuadStyle cs then if isFourPart cs then .ok host else .error (.address 4 host)
  else if cs.head? = some '[' && cs.getLast? = some ']' then
    let inner := cs.tail.dropLast
    if isEightGroup inner then .ok (String.ofList inner) else .error (.address 6 host)
  else if cs.all fun c => c.toNat < 128 then .ok (escapeText hostSafe (lower host))
  else
    match Label.asciiName? (lower host).toList with
    | none => .error (.name host)
    | some name => .ok (String.ofList name)

/-- The normal form of a port. -/
def normalPort (scheme port : String) : Except UrlError (Option Int) :=
  if port.isEmpty then .ok none
  else
    match Number.readInteger port with
    | .error _ => .error (.port port)
    | .ok n => .ok (if ownPort? scheme = some n then none else some n)

/-- Takes the dot segments out of a path; the parts so far are given backwards. -/
def dropDots (acc : List (List Char)) : List (List Char) → List (List Char)
  | [] => acc.reverse
  | part :: parts =>
    if part = ['.'] then dropDots acc parts
    else if part = ['.', '.'] then dropDots (if acc = [] || acc = [[]] then acc else acc.tail) parts
    else dropDots (part :: acc) parts

/-- The path without dot segments. -/
def normalPath (path : String) : String :=
  let parts := splitChars '/' path.toList
  if parts.any fun p => p = ['.'] || p = ['.', '.'] then
    String.ofList (joinChars '/' (dropDots [] parts))
  else path

namespace Url

/-- An URL whose parts are put into their normal forms. -/
def ofParts (scheme user host port path : String) (query fragment : Option String) :
    Except UrlError Url := do
  let host ← normalHost host
  let port ← normalPort scheme port
  let userInfo := escapeText userSafe user
  let hasScheme := !scheme.isEmpty
  let hasAuthority := !userInfo.isEmpty || !host.isEmpty || port.isSome
  if hasAuthority && !path.isEmpty && path.toList.head? ≠ some '/' then throw .slashMissing
  if !hasScheme && !hasAuthority then
    if path.toList.take 2 = ['/', '/'] then throw .doubleSlash
    if path.toList.head? = some ':' then throw .colon
  return {
    scheme := lower scheme, userInfo, host, port
    path := escapeText pathSafe (if hasScheme || hasAuthority then normalPath path else path)
    query := query.map (escapeText querySafe)
    fragment := fragment.map (escapeText fragmentSafe) }

/-- The first control character of a text. -/
def control? (cs : List Char) : Option (Char × Nat) :=
  cs.zipIdx.find? fun p => p.1.toNat < 32 || p.1.toNat = 127

/-- Reads an URL. -/
def parse (s : String) : Except UrlError Url :=
  let cs := s.toList
  if maxUrlLength < cs.length then .error .tooLong
  else
    match control? cs with
    | some (c, n) => .error (.control c n)
    | none =>
      let (scheme, rest) := splitScheme cs
      let (authority, rest) := splitAuthority rest
      let (path, rest) := spanUntil ['?', '#'] rest
      let (query, rest) := splitAfter '?' ['#'] rest
      let (fragment, _) := splitAfter '#' [] rest
      let (user, host, port) := splitUser authority
      ofParts scheme (String.ofList user) (String.ofList host) (String.ofList port)
        (String.ofList path) query fragment

/-! ## Views -/

/-- A host in brackets, if it needs them. -/
def bracketed (host : String) : String :=
  if host.toList.contains ':' then "[" ++ host ++ "]" else host

/-- The host as it is written. -/
def hostText (u : Url) : String := bracketed u.host

/-- The host and port as they are written. -/
def place (u : Url) : String :=
  u.hostText ++ (match u.port with | none => "" | some n => ":" ++ toString n)

/-- The user, host and port as they are written. -/
def authority (u : Url) : String :=
  (if u.userInfo.isEmpty then "" else u.userInfo ++ "@") ++ u.place

/-- The URL as it is written. -/
def text (u : Url) : String :=
  (if u.scheme.isEmpty then "" else u.scheme ++ ":")
    ++ (if u.authority.isEmpty then "" else "//" ++ u.authority) ++ u.path
    ++ (match u.query with | none => "" | some q => "?" ++ q)
    ++ (match u.fragment with | none => "" | some f => "#" ++ f)

/-- The path and the query as a server gets them. -/
def rawPath (u : Url) : String :=
  (if u.path.isEmpty then "/" else u.path) ++ (match u.query with | none => "" | some q => "?" ++ q)

/-- The path with its escapes resolved. -/
def plainPath (u : Url) : String :=
  String.ofList (percentDecode (if u.path.isEmpty then "/" else u.path).toList)

/-- A part with its escapes resolved. -/
def plain (part : String) : String :=
  String.ofList (percentDecode part.toList)

/-- The user and the password, with their escapes resolved, if there are any. -/
def login? (u : Url) : Option (String × String) :=
  let (user, password) := (cut? ':' u.userInfo).getD (u.userInfo, "")
  if user.isEmpty && password.isEmpty then none else some (plain user, plain password)

/-- Whether a text says at its beginning what kind of URL it is. -/
def isTyped (text : String) : Bool :=
  match spanUntil ['/', ':'] text.toList with
  | (_ :: _, ':' :: _) => true
  | _ => false

/-- Whether an URL says which server it is on. -/
def isAbsolute (u : Url) : Bool :=
  !u.scheme.isEmpty && !u.host.isEmpty

/-! ## Changes -/

/-- Checks a part that is given by itself. -/
def checkPart (part text : String) : Except UrlError Unit :=
  if maxUrlLength < text.toList.length then .error (.partTooLong part)
  else
    match control? text.toList with
    | some (c, n) => .error (.controlIn part c n)
    | none => .ok ()

/-- The URL with another host, path, query and fragment; `none` leaves a query or fragment out. -/
def rebuild (u : Url) (host path : String) (query fragment : Option String) :
    Except UrlError Url := do
  checkPart "authority" u.authority
  checkPart "path" path
  checkPart "query" (query.getD "")
  checkPart "fragment" (fragment.getD "")
  ofParts u.scheme u.userInfo host ((u.port.map toString).getD "") path query fragment

/-- The URL with another path and query. -/
def withRawPath (u : Url) (raw : String) : Except UrlError Url :=
  let (path, query) :=
    match cut? '?' raw with
    | none => (raw, none)
    | some (p, q) => (p, some q)
  u.rebuild u.hostText path query u.fragment

/-- The URL with a slash at the end of its path. -/
def withSlash (u : Url) : Except UrlError Url :=
  if u.rawPath.toList.getLast? = some '/' then .ok u else u.withRawPath (u.rawPath ++ "/")

/-- An URL given after a base, which has a slash at its end. One that says which server it is on
stands alone. -/
def join (base : Url) (s : String) : Except UrlError Url := do
  let u ← parse s
  if u.isAbsolute then return u
  base.withRawPath (base.rawPath ++ String.ofList (u.rawPath.toList.dropWhile (· = '/')))

/-! ## Hosts in requests -/

/-- Why a request cannot name its host. -/
inductive HostError where
  | label (error : LabelError)
  | charset (error : EncodeError)
deriving DecidableEq, Repr

/-- The host as it is read: a name for which there is an ASCII form is not left in that form. -/
def plainHost (u : Url) : Except HostError String :=
  match Label.plainName u.host.toList with
  | .error e => .error (.label e)
  | .ok name => .ok (String.ofList name)

/-- Checks that the host of an URL is a name, if it looks like the ASCII form of one. -/
def checkName (u : Url) : Except HostError Unit :=
  u.plainHost.map fun _ => ()

/-- Checks that a request can name the host of an URL: it has only ASCII characters, the zone of an
address included. -/
def checkHost (u : Url) : Except HostError Unit := do
  u.checkName
  let _ ← (encode .ascii u.place).mapError .charset

end Url

end Waypost.Browser
