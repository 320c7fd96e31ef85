import Waypost.Text.Quoted

/-!
# The public names

What the package offers under its own name, and the place at which each of these things is defined;
and what it says of itself.
-/

namespace Waypost.Catalog

/-- The version of the package. -/
def version : String := "0.1.0"

/-- The name of the package. -/
def package : String := "flare"

/-- The public names with the places of their definitions. -/
def places : List (String × String) :=
  [("App", "flare.app.App"), ("AppConfig", "flare.config.AppConfig"),
   ("AuthLevel", "flare.auth.levels.AuthLevel"),
   ("ConfigurationError", "flare.errors.ConfigurationError"),
   ("FlareError", "flare.errors.FlareError"), ("Forbidden", "flare.errors.Forbidden"),
   ("HTTPError", "flare.errors.HTTPError"), ("MethodNotAllowed", "flare.errors.MethodNotAllowed"),
   ("Middleware", "flare.middleware.protocol.Middleware"),
   ("Next", "collections.abc.Callable"), ("NotFound", "flare.errors.NotFound"),
   ("Request", "flare.http.request.Request"), ("Response", "flare.http.response.Response"),
   ("RouteTable", "flare.routing.router.RouteTable"), ("Session", "flare.auth.session.Session"),
   ("SessionStore", "flare.auth.session.SessionStore"),
   ("Unauthorized", "flare.errors.Unauthorized"),
   ("get_request", "flare.context.get_request"), ("get_session", "flare.context.get_session")]

/-- How the package describes itself, line by line. -/
def description : List String :=
  ["Flare: routing, authorization and navigation for split web apps.",
   "",
   "The server side maps ``(method, path)`` to handlers and guards each",
   "route with an access level. The client side drives navigation through",
   "the same route table and the same guard, keeping the visible URL in",
   "step with what the user is allowed to see.",
   "",
   "Basic usage::",
   "",
   "    from flare import App, AuthLevel",
   "",
   "    app = App()",
   "",
   "    @app.route(\"/items/:id\", level=AuthLevel.AUTHENTICATED)",
   "    def show_item(params, request):",
   "        return \x7b\"id\": params[\"id\"]\x7d",
   "",
   "Client-side navigation::",
   "",
   "    from flare.client import FlowEngine, MemoryHistory",
   "",
   "    engine = FlowEngine(views, MemoryHistory(\"/\"), credentials)",
   "    engine.start()",
   "    event = await engine.navigate(\"/items/42\")",
   ""]

/-- The public names as messages show them. -/
def shownNames : String :=
  "[" ++ ", ".intercalate (places.map fun p => Text.quote p.1) ++ "]"

/-- What the package says of itself, by name. -/
def particulars : List (String × String) :=
  [("__version__", version), ("__name__", package), ("__package__", package),
   ("__all__", shownNames), ("__doc__", "\n".intercalate description),
   ("__annotations__", "\x7b\x7d"), ("_Py_mod_gil", "0"),
   ("__getattr__", package ++ ".__getattr__"), ("__class__", "builtins.module")]

/-- A name that the package does not offer. -/
structure Unknown where
  name : String
deriving DecidableEq, Repr

/-- The wording of the error. -/
def Unknown.message (e : Unknown) : String :=
  "module " ++ Text.quote package ++ " has no attribute " ++ Text.quote e.name

/-- What a name stands for: the place at which it is defined, or what the package says of itself. -/
def locate (name : String) : Except Unknown String :=
  match (places ++ particulars).lookup name with
  | some text => .ok text
  | none => .error ⟨name⟩

end Waypost.Catalog
