import Waypost.Fault.Basic
import Waypost.Journal.Book
import Waypost.Report.Basic
import Waypost.Service.Config
import Waypost.Service.Lifespan

/-!
# Reports on messages

Requests, responses and what is sent for them, faults, settings, and what the journal holds.
-/

namespace Waypost

instance : Report SetCookie :=
  ⟨fun c => .object
    [("name", report c.name), ("value", report c.value), ("max_age", report c.maxAge),
     ("path", report c.path), ("domain", report c.domain), ("secure", report c.secure),
     ("httponly", report c.httpOnly), ("samesite", report c.sameSite)]⟩

instance : Report Status :=
  ⟨fun
    | .code n => .int n
    | .truth b => .bool b⟩

instance : Report Field :=
  ⟨fun
    | .text s => report s
    | .bytes bs => report bs
    | .foreign x => x.json⟩

instance : Report Response :=
  ⟨fun r => .object
    [("status", .int r.status.value), ("content_type", report r.contentType),
     ("headers", report r.headers), ("cookies", report r.cookies),
     match r.body with
     | .text s => ("body", report s)
     | .bytes bs => ("body_bytes", report bs)]⟩

instance : Report Query := ⟨fun q => report q.fields⟩

/-- The headers of a request, each name with all its values. -/
def Headers.groups (h : Headers) : List (String × List String) :=
  h.keys.map fun k => (k, (h.getAll k).toOption.getD [])

instance : Report Request :=
  ⟨fun r => .object
    [("method", report r.method), ("path", report r.path), ("url", report r.url),
     ("http_version", report r.httpVersion), ("server", report r.server),
     ("client", report r.client), ("content_type", report r.contentType?),
     ("cookies", report r.cookies), ("query", report r.query), ("headers", report r.headers.groups),
     ("path_params", reportMembers r.pathParams)]⟩

instance : Report Frame :=
  ⟨fun
    | .start status headers => .object
      [("type", .text "http.response.start"), ("status", .int status.value),
        ("headers", report headers)]
    | .body bs => .object [("type", .text "http.response.body"), ("body", report bs)]⟩

instance : Report Service.LifeSign :=
  ⟨fun
    | .started => .object [("type", .text "lifespan.startup.complete")]
    | .startFailed message =>
      .object [("type", .text "lifespan.startup.failed"), ("message", .text message)]
    | .stopped => .object [("type", .text "lifespan.shutdown.complete")]⟩

instance : Report Service.Config :=
  ⟨fun c => .object
    [("debug", report c.debug), ("secret_key", report c.secretKey),
     ("session_cookie", report c.sessionCookie), ("token_header", report c.tokenHeader),
     ("session_ttl", .int c.sessionTtl), ("log_level", report c.logLevel)]⟩

instance : Report Fault.Kind := ⟨fun k => .text k.name⟩

instance : Report LogRecord :=
  ⟨fun r => .array [.text r.severity.name, .text r.logger.name, .text r.message, report r.fault]⟩

instance : Report Delivery :=
  ⟨fun
    | .received e => .array
      [report e.name, report e.method, report e.path, report e.userId, report e.details]
    | .failed => .array [.text "raised", .null, .null, .null, .object []]⟩

namespace Fault

/-- A fault as its kind and its wording. -/
def summary (f : Fault) : Json :=
  .object [("error", report f.kind), ("message", report f.message)]

/-- What a fault carries besides its wording. -/
def particulars : Fault → List (String × Json)
  | .http e =>
    [("status", report e.status), ("detail", report e.detail), ("headers", report e.headers)]
  | .register (.invalid pattern reason) =>
    [("pattern", report pattern), ("reason", report reason.reason)]
  | .register (.ambiguous method pattern existing) =>
    [("method", report method), ("pattern", report pattern), ("existing", report existing)]
  | .register (.duplicateLabel label) => [("label", report label)]
  | _ => []

/-- A fault with its wording, its lineage and what it carries. -/
def portrait (f : Fault) : Json :=
  .object ([("str", report f.message), ("bases", report f.kind.lineage)] ++ f.particulars)

end Fault

end Waypost
