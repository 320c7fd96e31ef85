import Waypost.Browser.Reference

/-!
# Redirects

A server can send a browser elsewhere. `Url.redirect` is the place that the browser would ask next,
seen from the place that it has asked. A browser that keeps cookies looks closer at that place,
because it has to choose cookies for it.
-/

namespace Waypost.Browser.Url

/-- What is wrong with the place that a server sends a browser to, or with the place it was asked
at. -/
inductive RedirectError where
  | unreadable (error : UrlError)
  | url (error : UrlError)
  | host (error : HostError)
  | authority (error : AuthorityError)
  /-- An URL, as it is written, that does not say what kind of URL it is. -/
  | untyped (text : String)
deriving DecidableEq, Repr

/-- Checks that cookies can be chosen for an URL: it says what kind of URL it is before the last
mark of a fragment, and its authority is read in one way. A mark with nothing after it is left out
where the URL is shown. -/
def checkForCookies (u : Url) : Except RedirectError Unit := do
  let (untagged, tag) := (Text.cutLast? '#' u.text).getD (u.text, "")
  let shown := if tag.isEmpty then untagged else u.text
  if !isTyped untagged then throw (.untyped shown)
  let _ ← (Reference.read "" shown.toList).mapError .authority

/-- The port of an URL, or the one that its scheme has for its own. -/
def knownPort? (u : Url) : Option Int :=
  u.port.or (if u.scheme = "http" || u.scheme = "https" then ownPort? u.scheme else none)

/-- Whether two URLs are on one server. -/
def sameOrigin (u v : Url) : Bool :=
  u.scheme = v.scheme && u.host = v.host && u.knownPort? = v.knownPort?

/-- The place that a server sends a browser to. An URL that has a scheme and lacks a host gets the
one of the request, any other that does not say which server it is on is seen from the request, and
one that lacks a fragment gets its fragment. -/
def redirect (request : Url) (hasCookies : Bool) (location : String) :
    Except RedirectError Url := do
  let u ← (parse location).mapError .unreadable
  let u ←
    if u.scheme.isEmpty then pure u
    else do
      u.checkName.mapError .host
      if !u.host.isEmpty then pure u
      else do
        let host ← request.plainHost.mapError .host
        (u.rebuild (bracketed host) u.path u.query u.fragment).mapError .url
  let u ←
    if u.isAbsolute then pure u
    else do
      let text ← (Reference.resolve request.text u.text).mapError .authority
      (parse text).mapError .url
  let fragment := plain (request.fragment.getD "")
  let u ← if fragment.isEmpty || !(plain (u.fragment.getD "")).isEmpty then pure u
    else (u.rebuild u.hostText u.path u.query (some fragment)).mapError .url
  u.checkName.mapError .host
  if !u.sameOrigin request then u.checkHost.mapError .host
  if hasCookies then u.checkForCookies
  return u

end Waypost.Browser.Url
