import Waypost.Access.Session
import Waypost.Report.Basic
import Waypost.Route.Table

/-!
# Reports on sessions and routes
-/

namespace Waypost

instance : Report Access.Level := ⟨fun l => .text l.name⟩

instance : Report Access.Verdict := ⟨fun v => .text v.name⟩

instance : Report Access.Session :=
  ⟨fun s => .object
    [("token", report s.token), ("level", report s.level), ("expires_at", .int s.expiresAt),
      ("user_id", report s.userId)]⟩

namespace Route

/-- The name of a kind of segment. -/
def Segment.kindName : Segment → String
  | .literal _ => "literal"
  | .parameter _ => "param"
  | .tail _ => "wildcard"

/-- The text of a segment without its mark. -/
def Segment.plain : Segment → String
  | .literal v | .parameter v | .tail v => v

instance : Report Segment :=
  ⟨fun s => .array [.text s.kindName, .text s.plain, .bool (s.kindName == "literal")]⟩

instance : Report SegmentShape :=
  ⟨fun
    | .literal v => report ("literal", v)
    | .parameter => report ("param", "")
    | .tail => report ("wildcard", "")⟩

instance : Report Pattern :=
  ⟨fun p => .object
    [("str", report p.text), ("segments", report p.segments), ("param_names", report p.names),
      ("shape", report p.shape)]⟩

instance : Report Entry :=
  ⟨fun e => .object
    [("method", report e.method), ("pattern", report e.pattern.text),
     ("handler_id", report e.handlerId), ("level", report e.level), ("label", report e.label)]⟩

instance : Report Outcome :=
  ⟨fun
    | .matched e params => .object
      [("matched", report e.handlerId), ("pattern", report e.pattern.text),
       ("method", report e.method), ("params", report params)]
    | .methodNotAllowed path allowed =>
      .object [("not_allowed", report allowed), ("path", report path)]
    | .noRoute path => .object [("no_route", report path)]⟩

end Route

end Waypost
