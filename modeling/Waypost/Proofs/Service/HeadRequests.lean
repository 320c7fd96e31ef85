import Waypost.Proofs.Reply.Framing
import Waypost.Proofs.Route.Allowed
import Waypost.Proofs.Service.Answers
import Waypost.Proofs.Service.Readiness
import Waypost.Proofs.Service.Sinks

/-!
# HEAD is answered as GET is

A table without an entry for `HEAD` takes it for `GET`, and nothing between the table and the wire
asks for the method again but the reports, which quote it. So where application code does not ask
for it either, a request gets one answer for both, of which the body is left out in the end.

* `Journal.unworded` : the journal without the texts of its records, besides what a sink leaves;
  `unworded_log`, `unworded_emit` : what is reported of the one request and of the other is the same
  then;
* `Request.Twins`, `Context.Twins` : requests that differ in no more than `GET` and `HEAD`, and what
  comes with them;
* `Act.Alike` : two pieces of code that end alike; `Handler.Blind`, `Middleware.Blind`, ... : code
  that ends alike for twins, middleware if what comes next does;
* `dispatch_twins`, `chain_twins`, `answer_twins`, `handle_twins` : one part after the other, from
  the table to the answer;
* `serve_head` : the whole.
-/

namespace Waypost

/-! ## Journals without texts -/

/-- A record without its text. -/
def LogRecord.unworded (r : LogRecord) : LogRecord :=
  { r with message := "" }

namespace Journal

/-- The journal without the texts of its records, and without what a sink leaves. -/
def unworded (j : Journal) : Journal :=
  { j.muted with records := j.muted.records.map LogRecord.unworded }

theorem unworded_of_muted {j j' : Journal} (h : j.muted = j'.muted) : j.unworded = j'.unworded := by
  rw [unworded, h, unworded]

theorem unworded_emit (j : Journal) (ev : SecurityEvent) : (j.emit ev).unworded = j.unworded :=
  unworded_of_muted (j.muted_emit ev)

/-- What is logged counts without its text. -/
theorem unworded_log (j : Journal) {r : LogRecord} (hr : r.logger ≠ .security) :
    (j.log r).unworded = j.unworded.log r.unworded := by
  rw [unworded, muted_log j hr]
  unfold log
  rw [show j.unworded.threshold = j.muted.threshold from rfl,
    show r.unworded.severity = r.severity from rfl]
  split_ifs
  · simp only [unworded, List.map_append, List.map_cons, List.map_nil]
  · rfl

end Journal

/-! ## Requests that differ in their method -/

/-- One request twice, or with `GET` the one time and with `HEAD` the other. -/
inductive Request.Twins : Request → Request → Prop where
  | same (r : Request) : Twins r r
  | head (r : Request) : Twins { r with method := "GET" } { r with method := "HEAD" }

/-- What a server says about a request, for another method. -/
def Scope.asking (s : Scope) (method : String) : Scope :=
  { s with method := some method }

/-- A frame without the bytes of a body. -/
def Frame.bodiless : Frame → Frame
  | .start status headers => .start status headers
  | .body _ => .body []

namespace Request.Twins

variable {r r' : Request}

theorem withPathParams (h : Twins r r') (params : List (String × String)) :
    Twins (r.withPathParams params) (r'.withPathParams params) := by
  cases h with
  | same => exact .same _
  | head r => exact .head (r.withPathParams params)

end Request.Twins

/-- Without an entry for it, `HEAD` finds what `GET` does. -/
theorem Route.Indexed.lookup_head {t : Route.Table} (ht : Route.Indexed t)
    (hnone : ∀ e ∈ t.entries, e.method ≠ "HEAD") (path : String) :
    t.lookup "HEAD" path = t.lookup "GET" path := by
  have hserved : servedBy? t.entries "HEAD" = servedBy? t.entries "GET" := by
    funext s
    have hown : entryAt? t.entries "HEAD" s = none :=
      entryAt?_eq_none_iff.mpr fun e he _ => hnone e he
    rw [servedBy?, servedBy?, hown, if_pos rfl, if_neg (by decide), Option.none_or, Option.or_none]
  rw [ht.lookup_eq, ht.lookup_eq, precedence, precedence, show Text.upper "HEAD" = "HEAD" by decide,
    show Text.upper "GET" = "GET" by decide, hserved]

namespace Service

open Access Time

variable {α β : Type}

/-! ## Code that ends alike -/

/-- The world without the texts in its journal, and without what a sink leaves there. -/
def World.unworded (w : World α) : World α :=
  w.withJournal w.journal.unworded

/-- In worlds that differ in the texts of a journal, two pieces of code end with the same result, in
worlds that differ in no more than that. -/
def Act.Alike (x y : Act α β) : Prop :=
  ∀ w w' : World α, w.unworded = w'.unworded →
    ∃ result w₁ w₂, x w = (result, w₁) ∧ y w' = (result, w₂) ∧ w₁.unworded = w₂.unworded

/-- The same request or its twin, and the same session. -/
structure Context.Twins (c c' : Context) : Prop where
  request : Option.Rel Request.Twins c.request c'.request
  session : c.session = c'.session

/-- A handler ends alike for twins. -/
def Handler.Blind (h : Handler α) : Prop :=
  ∀ params r r' ctx ctx', Request.Twins r r' → Context.Twins ctx ctx' →
    Act.Alike (h params r ctx) (h params r' ctx')

/-- What serves requests ends alike for twins. -/
def ServesAlike (next next' : Request → Act α β) : Prop :=
  ∀ r r', Request.Twins r r' → Act.Alike (next r) (next' r')

/-- Middleware ends alike for twins if what comes next does. -/
def Middleware.Blind (m : Middleware α) : Prop :=
  ∀ ctx ctx', Context.Twins ctx ctx' → ∀ next next', ServesAlike next next' →
    ServesAlike (m ctx next) (m ctx' next')

/-- An error handler ends alike for twins. -/
def ErrorHandler.Blind (h : ErrorHandler α) : Prop :=
  ∀ f, ServesAlike (fun r => h.run r f) fun r => h.run r f

/-- No error handler asks for the method. -/
def ErrorRules.Blind (rules : ErrorRules α) : Prop :=
  ∀ p ∈ rules, p.2.Blind

/-- No handler, middleware or error handler of an application asks for the method. -/
structure App.Blind (a : App α) : Prop where
  handlers : ∀ p ∈ a.handlers.handlers, p.2.Blind
  middleware : ∀ m ∈ a.middleware, m.Blind
  rules : a.rules.Blind

namespace World

variable {w w' : World α}

theorem unworded_fields (h : w.unworded = w'.unworded) :
    w.store = w'.store ∧ w.now = w'.now ∧ w.journal.unworded = w'.journal.unworded :=
  ⟨(congrArg World.store h :), (congrArg World.now h :), (congrArg World.journal h :)⟩

theorem unworded_withJournal (h : w.unworded = w'.unworded) {j j' : Journal}
    (hj : j.unworded = j'.unworded) :
    (w.withJournal j).unworded = (w'.withJournal j').unworded := by
  have hrest : w.unworded.withJournal j.unworded = w'.unworded.withJournal j'.unworded := by
    rw [h, hj]
  exact hrest

theorem unworded_log (h : w.unworded = w'.unworded) {r r' : LogRecord} (hr : r.logger ≠ .security)
    (hsame : r.unworded = r'.unworded) : (w.log r).unworded = (w'.log r').unworded := by
  have hlogger : r.logger = r'.logger := (congrArg LogRecord.logger hsame :)
  refine unworded_withJournal h ?_
  rw [Journal.unworded_log _ hr, Journal.unworded_log _ (hlogger ▸ hr), hsame,
    (unworded_fields h).2.2]

end World

namespace Act.Alike

theorem ended (result : Except Fault β) :
    Alike (fun w : World α => (result, w)) fun w => (result, w) :=
  fun w w' hw => ⟨result, w, w', rfl, rfl, hw⟩

theorem responded {x y : Act α Value} (h : Alike x y) :
    Alike (fun w => responded (x w)) fun w => responded (y w) := by
  intro w w' hw
  obtain ⟨result, w₁, w₂, hx, hy, hworld⟩ := h w w' hw
  dsimp only
  rw [hx, hy]
  rcases result with f | v
  · exact ended (.error f) w₁ w₂ hworld
  · unfold Service.responded
    dsimp only
    cases v.toResponse with
    | error err => exact ended (.error (.reply err)) w₁ w₂ hworld
    | ok resp => exact ended (.ok resp) w₁ w₂ hworld

end Act.Alike

/-! ## The dispatcher -/

/-- The same result, with journals that differ in their texts. -/
def EndAlike (x y : β × Journal) : Prop :=
  ∃ result j j', x = (result, j) ∧ y = (result, j') ∧ j.unworded = j'.unworded

theorem endAlike_mk (result : β) {j j' : Journal} (hj : j.unworded = j'.unworded) :
    EndAlike (result, j) (result, j') :=
  ⟨result, j, j', rfl, rfl, hj⟩

section

variable {r r' : Request} {j j' : Journal}

theorem token_twins (c : Credentials) (r r' : Request) (value : String)
    (hj : j.unworded = j'.unworded) :
    EndAlike (c.token r value j) (c.token r' value j') := by
  unfold Credentials.token
  cases c.signer with
  | none => exact endAlike_mk _ hj
  | some signer =>
    dsimp only
    rcases signer.unsign value with e | ⟨_ | token⟩
    · exact endAlike_mk _ hj
    · -- The report of a bad signature quotes the method, and so does the event.
      refine endAlike_mk _ ?_
      rw [Journal.unworded_emit, Journal.unworded_emit, Journal.unworded_log j (by nofun),
        Journal.unworded_log j' (by nofun), hj]
      rfl
    · exact endAlike_mk _ hj

theorem resolve_twins (c : Credentials) (s : Store) (h : Request.Twins r r')
    (hj : j.unworded = j'.unworded) :
    EndAlike (c.resolve s r j) (c.resolve s r' j') := by
  have hpresented : c.presented r = c.presented r' := by
    cases h <;> rfl
  unfold Credentials.resolve
  rw [hpresented]
  rcases c.presented r' with e | ⟨_ | value⟩
  · exact endAlike_mk _ hj
  · exact endAlike_mk _ hj
  · obtain ⟨result, j₁, j₂, hx, hy, hj'⟩ := token_twins c r r' value hj
    dsimp only
    rw [hx, hy]
    cases result with
    | error e => exact endAlike_mk _ hj'
    | ok token => exact endAlike_mk _ hj'

namespace Dispatcher

theorem authorize_twins (required : Level) (credential : Option Session) (now : Instant)
    (r r' : Request) (hj : j.unworded = j'.unworded) :
    EndAlike (authorize required credential now r j) (authorize required credential now r' j') := by
  unfold authorize
  cases guard required credential now with
  | allowed => exact endAlike_mk _ hj
  | _ =>
    refine endAlike_mk _ ?_
    rw [Journal.unworded_emit, Journal.unworded_emit, hj]

variable {d : Dispatcher α} {ctx ctx' : Context}

theorem invoke_twins (hd : ∀ p ∈ d.handlers.handlers, p.2.Blind) (hctx : ctx.Twins ctx')
    (e : Route.Entry) (params : Params) (c : Option Session) (h : Request.Twins r r') :
    Act.Alike (d.invoke ctx e params c r) (d.invoke ctx' e params c r') := by
  intro w w' hw
  cases hhandler : d.handlers.get? e.handlerId with
  | none =>
    unfold invoke
    rw [hhandler]
    exact Act.Alike.ended _ w w' hw
  | some handler =>
    have hblind : handler.Blind := hd _ (Keyed.mem_of_get? hhandler)
    have hsession : Context.Twins { ctx with session := c } { ctx' with session := c } :=
      ⟨hctx.request, rfl⟩
    rw [invoke_eq hhandler, invoke_eq hhandler]
    exact (hblind params _ _ _ _ (h.withPathParams params) hsession).responded w w' hw

theorem serve_twins (hd : ∀ p ∈ d.handlers.handlers, p.2.Blind) (hctx : ctx.Twins ctx')
    (e : Route.Entry) (params : Params) (h : Request.Twins r r') :
    Act.Alike (d.serve ctx e params r) (d.serve ctx' e params r') := by
  intro w w' hw
  obtain ⟨hstore, hnow, hjournal⟩ := World.unworded_fields hw
  obtain ⟨result, j₁, j₂, hx, hy, hj⟩ := resolve_twins d.credentials w.store h hjournal
  unfold serve
  rw [← hstore, ← hnow, hx, hy]
  cases result with
  | error f => exact ⟨_, _, _, rfl, rfl, World.unworded_withJournal hw hj⟩
  | ok credential =>
    obtain ⟨objection, j₃, j₄, hx, hy, hj⟩ :=
      authorize_twins e.level credential (d.clock.getD w.now) r r' hj
    dsimp only
    rw [hx, hy]
    cases objection with
    | some err => exact ⟨_, _, _, rfl, rfl, World.unworded_withJournal hw hj⟩
    | none =>
      exact invoke_twins hd hctx e params credential h _ _ (World.unworded_withJournal hw hj)

/-- Twins are dispatched alike, where the table has nothing of its own for `HEAD`. -/
theorem dispatch_twins (hd : ∀ p ∈ d.handlers.handlers, p.2.Blind) (ht : Route.Indexed d.table)
    (hnone : ∀ e ∈ d.table.entries, e.method ≠ "HEAD") (hctx : ctx.Twins ctx') :
    ServesAlike (d.dispatch ctx) (d.dispatch ctx') := by
  intro r r' h
  have hlookup : d.table.lookup r.method r.path = d.table.lookup r'.method r'.path := by
    cases h with
    | same => rfl
    | head r => exact (ht.lookup_head hnone r.path).symm
  unfold dispatch
  rw [hlookup]
  cases d.table.lookup r'.method r'.path with
  | noRoute path => exact Act.Alike.ended _
  | methodNotAllowed path allowed => exact Act.Alike.ended _
  | matched e params => exact serve_twins hd hctx e params h

end Dispatcher

end

/-! ## Faults -/

section

variable {rules : ErrorRules α}

theorem ErrorRules.Blind.of_find? (hrules : rules.Blind) {kind : Fault.Kind} {status : Int}
    {h : ErrorHandler α} (hfind : rules.find? kind status = some h) : h.Blind := by
  unfold ErrorRules.find? at hfind
  rw [Option.orElse_eq_or, Option.or_eq_some_iff] at hfind
  rcases hfind with hkind | ⟨-, hstatus⟩
  · exact hrules _ (Keyed.mem_of_get? hkind)
  · exact hrules _ (Keyed.mem_of_get? hstatus)

theorem draft_twins (hrules : rules.Blind) (debug : Bool) (f : Fault) :
    ServesAlike (fun r => draft rules debug r f) fun r => draft rules debug r f := by
  intro r r' h w w' hw
  dsimp only
  cases hrule : rules.find? f.kind f.ownStatus.value with
  | none =>
    unfold draft
    rw [hrule]
    exact Act.Alike.ended _ w w' hw
  | some handler =>
    obtain ⟨result, w₁, w₂, hx, hy, hworld⟩ := (hrules.of_find? hrule f r r' h).responded w w' hw
    dsimp only at hx hy
    rw [draft_of_rule hrule, draft_of_rule hrule, hx, hy]
    cases result with
    | error g => exact Act.Alike.ended _ w₁ w₂ hworld
    | ok resp => exact Act.Alike.ended _ w₁ w₂ hworld

theorem logged_twins (f : Fault) (r r' : Request) :
    (f.logged r).logger ≠ .security ∧ (f.logged r).unworded = (f.logged r').unworded := by
  unfold Fault.logged
  cases f.http? with
  | none => exact ⟨nofun, rfl⟩
  | some e => exact ⟨nofun, rfl⟩

/-- A fault is answered alike for twins. -/
theorem answer_twins (hrules : rules.Blind) (debug : Bool) (f : Fault) :
    ServesAlike (fun r => answer rules debug r f) fun r => answer rules debug r f := by
  intro r r' h w w' hw
  obtain ⟨hlogger, hrecord⟩ := logged_twins f r r'
  obtain ⟨result, w₁, w₂, hx, hy, hworld⟩ :=
    draft_twins hrules debug f r r' h _ _ (World.unworded_log hw hlogger hrecord)
  dsimp only at hx hy ⊢
  rw [answer_eq, answer_eq, hx, hy]
  cases result with
  | error g => exact Act.Alike.ended _ w₁ w₂ hworld
  | ok resp =>
    dsimp only
    cases mergeHeaders resp f.ownHeaders with
    | error l => exact Act.Alike.ended _ w₁ w₂ hworld
    | ok resp' => exact Act.Alike.ended _ w₁ w₂ hworld

end

/-! ## The application -/

namespace App

theorem chain_twins {ms : List (Middleware α)} (hms : ∀ m ∈ ms, m.Blind) {ctx ctx' : Context}
    (hctx : ctx.Twins ctx') {last last' : Request → Act α Value} (hlast : ServesAlike last last') :
    ServesAlike (chain ctx last ms) (chain ctx' last' ms) := by
  -- From the inside out: the rest of the chain is what comes next for the first one.
  induction ms with
  | nil => exact hlast
  | cons m ms ih =>
    obtain ⟨hm, hms⟩ := List.forall_mem_cons.mp hms
    exact hm ctx ctx' hctx _ _ (ih hms)

section

variable {a : App α} (hblind : a.Blind) (ht : Route.Indexed a.table)
  (hnone : ∀ e ∈ a.table.entries, e.method ≠ "HEAD")
include hblind ht hnone

theorem respond_twins : ServesAlike a.respond a.respond := by
  intro r r' h
  have hctx : Context.Twins { request := some r } { request := some r' } := ⟨.some h, rfl⟩
  refine chain_twins hblind.middleware hctx ?_ r r' h
  intro q q' hq w w' hw
  obtain ⟨result, w₁, w₂, hx, hy, hworld⟩ :=
    a.dispatcher.dispatch_twins hblind.handlers ht hnone hctx q q' hq w w' hw
  dsimp only
  rw [hx, hy]
  cases result with
  | error f => exact Act.Alike.ended _ w₁ w₂ hworld
  | ok resp => exact Act.Alike.ended _ w₁ w₂ hworld

theorem handle_twins : ServesAlike a.handle a.handle := by
  intro r r' h w w' hw
  obtain ⟨result, w₁, w₂, hx, hy, hworld⟩ := respond_twins hblind ht hnone r r' h w w' hw
  unfold handle
  rw [hx, hy]
  cases result with
  | ok v => exact Act.Alike.ended _ w₁ w₂ hworld
  | error f =>
    obtain ⟨result, w₃, w₄, hx, hy, hworld⟩ :=
      answer_twins hblind.rules a.config.debug f r r' h w₁ w₂ hworld
    dsimp only at hx hy ⊢
    rw [hx, hy]
    cases result with
    | error g => exact Act.Alike.ended _ w₃ w₄ hworld
    | ok resp => exact Act.Alike.ended _ w₃ w₄ hworld

end

/-- The frames of an answer to `HEAD` are the others but for the body. -/
theorem framesOf_head (v : Value) :
    framesOf true v = (framesOf false v).map (List.map Frame.bodiless) := by
  cases v with
  | response r =>
    simp only [framesOf, Response.frames]
    cases r.sentHeaders with
    | error e => cases e <;> rfl
    | ok hs => rfl
  | _ => rfl

theorem exists_of_framesOf {head : Bool} {v : Value} {fs : List Frame}
    (h : framesOf head v = .ok fs) :
    ∃ status headers body, fs = [.start status headers, .body body] := by
  cases v with
  | response r =>
    unfold framesOf at h
    dsimp only at h
    cases hframes : r.frames head with
    | error e =>
      rw [hframes] at h
      cases e <;> cases h
    | ok fs' =>
      rw [hframes] at h
      obtain ⟨hs, -, rfl⟩ := Response.frames_eq_ok_iff.mp hframes
      exact ⟨r.status, hs, _, (Except.ok.inj h).symm⟩
  | _ => cases h

section

variable {a : App α} (s : Scope) (w : World α)

theorem exchange_head (hblind : a.Blind) (ht : Route.Indexed a.table)
    (hnone : ∀ e ∈ a.table.entries, e.method ≠ "HEAD") :
    ∃ result w₁ w₂, a.exchange (s.asking "GET") w = (result, w₁) ∧
      a.exchange (s.asking "HEAD") w = (result.map (List.map Frame.bodiless), w₂) ∧
      w₁.unworded = w₂.unworded ∧ ∀ fs, result = .ok fs →
        ∃ status headers body, fs = [.start status headers, .body body] := by
  unfold exchange Request.ofScope Scope.asking
  dsimp only
  cases s.path with
  | none => exact ⟨_, _, _, rfl, rfl, rfl, nofun⟩
  | some path =>
    dsimp only
    have htwins := Request.Twins.head
      { method := "GET"
        path
        headers := s.headers
        query := .ofBytes s.query
        httpVersion := s.httpVersion
        server := s.server
        client := s.client
        cookies := parseCookies ((s.headers.first? "cookie").getD "") }
    obtain ⟨result, w₁, w₂, hx, hy, hworld⟩ := handle_twins hblind ht hnone _ _ htwins w w rfl
    dsimp only at hx hy
    rw [hx, hy]
    cases result with
    | error f => exact ⟨_, _, _, rfl, rfl, hworld, nofun⟩
    | ok v =>
      exact ⟨_, w₁, w₂, rfl, congrArg (·, w₂) (framesOf_head v), hworld,
        fun _ => exists_of_framesOf⟩

/-- In an application that calls have led to, that has no entry for `HEAD` and of whose code none
asks for the method, `HEAD` is answered as `GET` is: with the same status and the same headers,
however it comes to the answer, and with no body. If nothing can be sent, it is for the same fault,
and what is left is the same but for what is reported. -/
theorem serve_head (ha : AppCall.Reached a) (hnone : ∀ e ∈ a.table.entries, e.method ≠ "HEAD")
    (hblind : a.Blind) :
    (a.serve (s.asking "HEAD") w).1 = (a.serve (s.asking "GET") w).1.map (List.map Frame.bodiless) ∧
      (a.serve (s.asking "HEAD") w).2.1 = (a.serve (s.asking "GET") w).2.1 ∧
      (a.serve (s.asking "HEAD") w).2.2.unworded = (a.serve (s.asking "GET") w).2.2.unworded ∧
      ∀ fs, s.kind = some "http" → (a.serve (s.asking "GET") w).1 = .ok fs →
        ∃ status headers body, fs = [.start status headers, .body body] ∧
          (a.serve (s.asking "HEAD") w).1 = .ok [.start status headers, .body []] := by
  unfold serve
  rw [show (s.asking "GET").kind = s.kind from rfl, show (s.asking "HEAD").kind = s.kind from rfl]
  cases s.kind with
  | none => exact ⟨rfl, rfl, rfl, nofun⟩
  | some kind =>
    dsimp only
    rcases hfreeze : a.freeze w.journal with ⟨f | a', j⟩
    · exact ⟨rfl, rfl, rfl, fun _ _ => nofun⟩
    · -- Freezing changes neither the entries nor the code.
      have hfrozen := AppCall.eq_of_freeze ha.same (congrArg Prod.fst hfreeze)
      have htable : Route.Indexed a.table.freeze :=
        (ha.ready.registered.perform (c := .freeze) trivial).toIndexed
      have hblind' : a'.Blind := hfrozen ▸ ⟨hblind.handlers, hblind.middleware, hblind.rules⟩
      dsimp only
      by_cases hkind : kind = "http"
      · obtain ⟨result, w₁, w₂, hget, hhead, hworld, hframes⟩ :=
          exchange_head s (w.withJournal j) hblind' (hfrozen ▸ htable) (hfrozen ▸ hnone)
        rw [if_pos hkind, if_pos hkind, hget, hhead]
        refine ⟨rfl, rfl, hworld.symm, fun fs _ hfs => ?_⟩
        obtain ⟨status, headers, body, rfl⟩ := hframes fs hfs
        refine ⟨status, headers, body, rfl, ?_⟩
        dsimp only at hfs ⊢
        rw [hfs]
        rfl
      · rw [if_neg hkind, if_neg hkind]
        exact ⟨rfl, rfl, rfl, fun _ heq => absurd (Option.some.inj heq) hkind⟩

end

/-- A handler that pours tea for everybody who asks. -/
def pourTea : Handler Nat := fun _ _ _ w => (.ok (.text "tea"), w)

/-- Middleware that counts the requests and marks what is served. -/
def markServed : Middleware Nat := fun _ next r w =>
  match next r { w with own := w.own + 1 } with
  | (.ok (.response resp), w) => (.ok (.response (resp.withHeader "X-Served" "yes")), w)
  | x => x

/-- An application with tea for everybody, a book for those who are signed in, orders that can only
be sent, and a word of its own where a method is turned away. -/
def teaRoom : App Nat :=
  AppCall.performAll {} <|
    [.setup (.addRoute "GET" "/tea" "tea.pour" .anonymous none),
      .setup (.addRoute "GET" "/book" "tea.pour" .authenticated none),
      .setup (.addRoute "POST" "/order" "tea.pour" .anonymous none),
      .setup (.handler "tea.pour" pourTea), .setup (.addMiddleware markServed),
      .setup (.onError (.status 405) (.ofRequest fun r w => (.ok (.text r.path), w)))].map
      fun c => (c, newWorld)

/-- What a server says about a request for a path. -/
def plainScope (path : String) : Scope :=
  { kind := some "http", path := some path }

theorem blind_teaRoom : teaRoom.Blind where
  handlers := by
    intro p hp
    rw [show p = ("tea.pour", pourTea) from List.mem_singleton.mp hp]
    exact fun _ _ _ _ _ _ _ => Act.Alike.ended _
  middleware := by
    intro m hm
    rw [show m = markServed from List.mem_singleton.mp hm]
    intro ctx ctx' _ next next' hnext r r' h w w' hw
    have hcounted : ({ w with own := w.own + 1 } : World Nat).unworded =
        ({ w' with own := w'.own + 1 } : World Nat).unworded :=
      congrArg (fun w : World Nat => { w with own := w.own + 1 }) hw
    obtain ⟨result, w₁, w₂, hx, hy, hworld⟩ := hnext r r' h _ _ hcounted
    unfold markServed
    rw [hx, hy]
    rcases result with f | v
    · exact Act.Alike.ended _ w₁ w₂ hworld
    · cases v with
      | _ => exact Act.Alike.ended _ w₁ w₂ hworld
  rules := by
    intro p hp
    rw [List.mem_singleton.mp hp]
    intro f r r' h
    have hpath : r.path = r'.path := by
      cases h <;> rfl
    intro w w' hw
    exact ⟨_, w, w', rfl, congrArg (fun path => (Except.ok (Value.text path), w')) hpath.symm, hw⟩

theorem serve_head_teaRoom :
    (∃ headers, (teaRoom.serve ((plainScope "/tea").asking "GET") newWorld).1 =
        .ok [.start 200 headers, .body (Codec.encodeUtf8 "tea")] ∧
      (teaRoom.serve ((plainScope "/tea").asking "HEAD") newWorld).1 =
        .ok [.start 200 headers, .body []]) ∧
    (∃ headers, (teaRoom.serve ((plainScope "/book").asking "HEAD") newWorld).1 =
      .ok [.start 401 headers, .body []]) ∧
    ∃ headers, (teaRoom.serve ((plainScope "/order").asking "GET") newWorld).1 =
        .ok [.start 405 headers, .body (Codec.encodeUtf8 "/order")] ∧
      (teaRoom.serve ((plainScope "/order").asking "HEAD") newWorld).1 =
        .ok [.start 405 headers, .body []] := by
  have hreached : AppCall.Reached teaRoom := ⟨{}, _, _, _, rfl, rfl⟩
  have hnone : ∀ e ∈ teaRoom.table.entries, e.method ≠ "HEAD" := by decide
  have hhead := fun path => (serve_head (plainScope path) newWorld hreached hnone blind_teaRoom).1
  exact ⟨⟨_, rfl, (hhead "/tea").trans rfl⟩, ⟨_, (hhead "/book").trans rfl⟩, _, rfl,
    (hhead "/order").trans rfl⟩

end App

end Service

end Waypost
