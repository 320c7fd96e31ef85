import Waypost.Browser.Authority
import Waypost.Browser.Url

/-!
# References

A reference says where something is, seen from a base. `Reference.resolve` is the place it stands
for. How much of the base counts depends on the scheme: of some schemes it is not known that their
paths are made of segments, and then the base does not count at all.
-/

namespace Waypost.Browser

open Text

/-- A reference in its parts; a part that is missing is empty. -/
structure Reference where
  scheme : String := ""
  authority : List Char := []
  path : List Char := []
  /-- What follows a semicolon in the last segment of the path. -/
  params : List Char := []
  query : List Char := []
  fragment : List Char := []
deriving DecidableEq, Repr, Inhabited

namespace Reference

/-- The schemes whose references can be relative. -/
def relativeSchemes : List String :=
  ["", "ftp", "http", "gopher", "nntp", "imap", "wais", "file", "https", "shttp", "mms", "prospero",
   "rtsp", "rtsps", "rtspu", "sftp", "svn", "svn+ssh", "ws", "wss"]

/-- The schemes whose references name a server. -/
def serverSchemes : List String :=
  ["", "ftp", "http", "gopher", "nntp", "telnet", "imap", "wais", "file", "mms", "https", "shttp",
   "snews", "prospero", "rtsp", "rtsps", "rtspu", "rsync", "svn",
   "svn+ssh", "sftp", "nfs", "git", "git+ssh", "ws", "wss"]

/-- The schemes whose paths end with parameters. -/
def paramSchemes : List String :=
  ["", "ftp", "hdl", "prospero", "http", "imap", "https", "shttp", "rtsp", "rtsps", "rtspu", "sip",
    "sips", "mms", "sftp", "tel"]

/-- The scheme of a text and what follows it, if the text has one. -/
def schemeOf? (cs : List Char) : Option (String × List Char) :=
  match cs.span fun c => c.isAlphanum || c = '+' || c = '.' || c = '-' with
  | (c :: name, ':' :: rest) =>
    if c.isAlpha then some (lower (String.ofList (c :: name)), rest) else none
  | _ => none

/-- The path without its parameters, and the parameters. -/
def splitParams (path : List Char) : List Char × List Char :=
  let last := path.reverse.takeWhile (· ≠ '/')
  match cutChars? ';' last.reverse with
  | none => (path, [])
  | some (before, params) => (path.take (path.length - last.length) ++ before, params)

/-- Reads a reference, which has the scheme `outer` unless it has its own. -/
def read (outer : String) (cs : List Char) : Except AuthorityError Reference := do
  let (scheme, rest) := (schemeOf? cs).getD (outer, cs)
  let (authority, rest) := splitAuthority rest
  checkAuthority authority
  let (path, rest) := spanUntil ['?', '#'] rest
  let (query, rest) := splitAfter '?' ['#'] rest
  let (fragment, _) := splitAfter '#' [] rest
  let (path, params) := if paramSchemes.contains scheme then splitParams path else (path, [])
  return {
    scheme, authority, path, params
    query := (query.getD "").toList
    fragment := (fragment.getD "").toList }

/-- A mark and a part after it, if there is such a part. -/
def marked (mark : Char) (part : List Char) : List Char :=
  if part.isEmpty then [] else mark :: part

/-- The reference as it is written. -/
def text (r : Reference) : List Char :=
  let path := r.path ++ marked ';' r.params
  let place :=
    if !r.authority.isEmpty || (r.scheme ≠ "" && serverSchemes.contains r.scheme) ||
      path.take 2 = ['/', '/'] then
      '/' :: '/' :: r.authority ++
        (if path.isEmpty || path.head? = some '/' then path else '/' :: path)
    else path
  (if r.scheme = "" then [] else r.scheme.toList ++ [':']) ++ place ++ marked '?' r.query ++
    marked '#' r.fragment

/-- The segments of a path that is seen from the path of a base. -/
def segments (base path : List Char) : List (List Char) :=
  if path.head? = some '/' then splitChars '/' path
  else
    let parts := splitChars '/' base
    let kept := if parts.getLast? = some [] then parts else parts.dropLast
    match kept ++ splitChars '/' path with
    | [] => []
    | s :: rest => s :: (rest.dropLast.filter fun p => !p.isEmpty) ++ rest.getLast?.toList

/-- Goes along segments; what is left of those before is given backwards. -/
def walk (trail : List (List Char)) : List (List Char) → List (List Char)
  | [] => trail.reverse
  | s :: rest =>
    if s = ['.', '.'] then walk trail.tail rest
    else if s = ['.'] then walk trail rest
    else walk (s :: trail) rest

/-- The path that segments lead to. One that ends in a dot segment is the path of a directory. -/
def pathOf (segments : List (List Char)) : List Char :=
  let end? := segments.getLast?
  let path :=
    joinChars '/'
      (walk [] segments ++ if end? = some ['.'] || end? = some ['.', '.'] then [[]] else [])
  if path.isEmpty then ['/'] else path

/-- The place that a reference stands for, seen from a base. -/
def resolve (base reference : String) : Except AuthorityError String := do
  if base.isEmpty then return reference
  if reference.isEmpty then return base
  let b ← read "" base.toList
  let r ← read b.scheme reference.toList
  if r.scheme ≠ b.scheme || !relativeSchemes.contains r.scheme then return reference
  let isServed := serverSchemes.contains r.scheme
  if isServed && !r.authority.isEmpty then return String.ofList r.text
  let r := if isServed then { r with authority := b.authority } else r
  if r.path.isEmpty && r.params.isEmpty then
    let query := if r.query.isEmpty then b.query else r.query
    return String.ofList { r with path := b.path, params := b.params, query }.text
  return String.ofList { r with path := pathOf (segments b.path r.path) }.text

end Reference

end Waypost.Browser
