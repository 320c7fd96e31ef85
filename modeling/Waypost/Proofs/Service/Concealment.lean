import Waypost.Proofs.Service.Answers
import Waypost.Proofs.Service.Invocation
import Waypost.Service.App

/-!
# What a client learns of an internal fault

A fault without a status of its own may come from a handler, from its value, from the token of a
request or from the middleware. Where no error handler is for it, the client learns that something
went wrong and nothing else.

* `Breaks` : where a dispatch comes to such a fault; `dispatch_eq_error_iff` : there are no other
  places;
* `App.Escapes` : serving a scope comes to such a fault, which leaves the middleware, and no error
  handler is for it; `App.Escapes.of_breaks` : without middleware, all that a dispatch comes to
  leaves it;
* `internalFrames` : the frames that say that something went wrong;
* `serve_conceals` : these are what is sent, whatever the fault and wherever it comes from; only the
  journal has its kind.
-/

namespace Waypost.Service

open Access Codec Time

variable {α β : Type}

/-! ## Faults of a dispatch -/

/-- The places at which a dispatch comes to a fault without a status of its own, with the world that
this leaves. -/
inductive Breaks (d : Dispatcher α) (ctx : Context) (r : Request) (w : World α) :
    Fault → World α → Prop where
  /-- What the request presents cannot be read, such as a signed token whose payload is broken. -/
  | unread {e : Route.Entry} {params : Params} {f : Fault} {j : Journal}
      (hmatch : d.table.lookup r.method r.path = .matched e params)
      (hresolve : d.credentials.resolve w.store r w.journal = (.error f, j)) :
      Breaks d ctx r w f (w.withJournal j)
  /-- Nobody has registered the handler. -/
  | unregistered {e : Route.Entry} {params : Params} {c : Option Session} {j : Journal}
      (hadmits : d.Admits r w e params c j) (hhandler : d.handlers.get? e.handlerId = none) :
      Breaks d ctx r w (.noHandler e.handlerId) (w.withJournal j)
  /-- The handler ends with the fault. -/
  | raised {e : Route.Entry} {params : Params} {c : Option Session} {j : Journal}
      {handler : Handler α} {f : Fault}
      {w' : World α} (hadmits : d.Admits r w e params c j)
      (hhandler : d.handlers.get? e.handlerId = some handler)
      (hrun : handler params (r.withPathParams params) { ctx with session := c } (w.withJournal j) =
        (.error f, w')) :
      Breaks d ctx r w f w'
  /-- The value of the handler is no response. -/
  | unconverted {e : Route.Entry} {params : Params} {c : Option Session} {j : Journal}
      {handler : Handler α} {v : Value}
      {err : ReplyError} {w' : World α} (hadmits : d.Admits r w e params c j)
      (hhandler : d.handlers.get? e.handlerId = some handler)
      (hrun : handler params (r.withPathParams params) { ctx with session := c } (w.withJournal j) =
        (.ok v, w'))
      (hvalue : v.toResponse = .error err) : Breaks d ctx r w (.reply err) w'

namespace Dispatcher

variable {d : Dispatcher α} {ctx : Context} {r : Request} {w w' : World α} {f : Fault}

/-- A request that is admitted ends as its handler does. -/
theorem Admits.dispatch_eq {e : Route.Entry} {params : Params} {c : Option Session} {j : Journal}
    (h : d.Admits r w e params c j) {handler : Handler α}
    (hhandler : d.handlers.get? e.handlerId = some handler) :
    d.dispatch ctx r w =
      responded (handler params (r.withPathParams params) { ctx with session := c }
        (w.withJournal j)) := by
  rw [dispatch_of_matched h.matched]
  exact serve_of_allowed h.presents h.allowed hhandler

theorem Admits.dispatch_unregistered {e : Route.Entry} {params : Params} {c : Option Session}
    {j : Journal} (h : d.Admits r w e params c j) (hhandler : d.handlers.get? e.handlerId = none) :
    d.dispatch ctx r w = (.error (.noHandler e.handlerId), w.withJournal j) := by
  rw [dispatch_of_matched h.matched]
  unfold serve
  rw [h.presents]
  dsimp only
  rw [authorize, h.allowed]
  dsimp only
  rw [invoke, hhandler]

theorem dispatch_of_breaks (h : Breaks d ctx r w f w') : d.dispatch ctx r w = (.error f, w') := by
  cases h with
  | unread hmatch hresolve =>
    rw [dispatch_of_matched hmatch]
    unfold serve
    rw [hresolve]
  | unregistered hadmits hhandler => exact hadmits.dispatch_unregistered hhandler
  | raised hadmits hhandler hrun => rw [hadmits.dispatch_eq hhandler, hrun, responded]
  | unconverted hadmits hhandler hrun hvalue =>
    rw [hadmits.dispatch_eq hhandler, hrun, responded, hvalue]

theorem breaks_of_dispatch (hplain : f.http? = none) (h : d.dispatch ctx r w = (.error f, w')) :
    Breaks d ctx r w f w' := by
  -- A request that is refused leaves the world that the place of the refusal leaves.
  have hrefused : ∀ {w₁}, Breaks d ctx r w f w₁ → Breaks d ctx r w f w' := by
    intro w₁ hbreaks
    have hsame := (dispatch_of_breaks hbreaks).symm.trans h
    exact (Prod.mk.inj hsame).2 ▸ hbreaks
  rcases dispatch_cases d ctx r w with
    ⟨e, params, c, j, handler, hadmits, hhandler, hdispatch⟩ | ⟨g, j, hrefuses, hdispatch⟩
  · rw [hdispatch] at h
    rcases hrun : handler params (r.withPathParams params) { ctx with session := c }
      (w.withJournal j) with ⟨g | v, w₁⟩
    · rw [hrun] at h
      cases h
      exact .raised hadmits hhandler hrun
    · rw [hrun, responded] at h
      cases hvalue : v.toResponse with
      | error err =>
        rw [hvalue] at h
        cases h
        exact .unconverted hadmits hhandler hrun hvalue
      | ok resp =>
        rw [hvalue] at h
        cases h
  · obtain rfl : f = g := Except.error.inj (Prod.mk.inj (h.symm.trans hdispatch)).1
    cases hrefuses with
    | unread hmatch hresolve => exact hrefused (.unread hmatch hresolve)
    | unregistered hadmits hhandler => exact hrefused (.unregistered hadmits hhandler)
    | noRoute hmatch => cases hplain
    | methodNotAllowed hmatch => cases hplain
    | unauthenticated hmatch hresolve hguard => cases hplain
    | insufficientLevel hmatch hresolve hguard => cases hplain

/-- A dispatch comes to a fault without a status of its own at one of these places. -/
theorem dispatch_eq_error_iff (hplain : f.http? = none) :
    d.dispatch ctx r w = (.error f, w') ↔ Breaks d ctx r w f w' :=
  ⟨breaks_of_dispatch hplain, dispatch_of_breaks⟩

end Dispatcher

/-! ## What is sent -/

/-- The frames that say that something went wrong; `head` says that the request wants no body. -/
def internalFrames (head : Bool) : List Frame :=
  [.start 500
      [(encodeUtf8 "content-type", encodeUtf8 "text/plain; charset=utf-8"),
        (encodeUtf8 "content-length", encodeUtf8 "21")],
    .body (if head then [] else encodeUtf8 "Internal Server Error")]

theorem frames_internal (head : Bool) :
    (Response.ofText internalErrorBody 500).frames head = .ok (internalFrames head) := rfl

namespace App

/-- Serving a scope, an application comes to a fault that leaves the middleware. The fault has no
status of its own, and no error handler is for it. -/
structure Escapes (a : App α) (s : Scope) (w : World α) (r : Request) (f : Fault) (w' : World α) :
    Prop where
  kind : s.kind = some "http"
  request : Request.ofScope s [] = .ok r
  leaves : ∃ a' j, a.freeze w.journal = (.ok a', j) ∧
    a'.respond r (w.withJournal j) = (.error f, w')
  plain : f.http? = none
  unruled : a.rules.find? f.kind 500 = none

theorem rules_of_freeze {a a' : App α} {j j' : Journal} (h : a.freeze j = (.ok a', j')) :
    a'.rules = a.rules := by
  unfold freeze at h
  split_ifs at h <;> cases h <;> rfl

variable {a : App α} {s : Scope} {w w' : World α} {r : Request} {f : Fault}

/-- A fault that leaves the middleware is answered and sent. -/
theorem Escapes.serve_eq (h : a.Escapes s w r f w') :
    (a.serve s w).1 = .ok (internalFrames (r.method = "HEAD")) ∧ (a.serve s w).2.2 = w'.log
    (internalRecord r f) := by
  obtain ⟨hkind, hrequest, ⟨a', j, hfreeze, hleaves⟩, hplain, hunruled⟩ := h
  have hanswer : answer a'.rules a'.config.debug r f w' =
      (.ok (.ofText internalErrorBody 500), w'.log (internalRecord r f)) := by
    rw [answer_of_http?_eq_none hplain, answerInternal, rules_of_freeze hfreeze, hunruled]
  have hhandle : a'.handle r (w.withJournal j) =
      (.ok (.response (.ofText internalErrorBody 500)), w'.log (internalRecord r f)) := by
    unfold handle
    rw [hleaves]
    dsimp only
    rw [hanswer]
  have hexchange : a'.exchange s (w.withJournal j) =
      (.ok (internalFrames (r.method = "HEAD")), w'.log (internalRecord r f)) := by
    unfold exchange
    rw [hrequest]
    dsimp only
    rw [hhandle]
    dsimp only [framesOf]
    rw [frames_internal]
  unfold serve
  rw [hkind]
  dsimp only
  rw [hfreeze]
  dsimp only
  rw [if_pos rfl, hexchange]
  exact ⟨rfl, rfl⟩

/-- Without middleware, all faults without a status of their own that a dispatch comes to leave
it. -/
theorem Escapes.of_breaks {a' : App α} {j : Journal} (hkind : s.kind = some "http")
    (hrequest : Request.ofScope s [] = .ok r) (hfreeze : a.freeze w.journal = (.ok a', j))
    (hbare : a'.middleware = [])
    (hbreaks : Breaks a'.dispatcher { request := some r } r (w.withJournal j) f w')
    (hplain : f.http? = none) (hunruled : a.rules.find? f.kind 500 = none) :
    a.Escapes s w r f w' := by
  refine ⟨hkind, hrequest, ⟨a', j, hfreeze, ?_⟩, hplain, hunruled⟩
  unfold respond
  rw [hbare]
  dsimp only [chain]
  rw [Dispatcher.dispatch_of_breaks hbreaks]

end App

/-- Whatever the fault and wherever it comes from, what is sent says that something went wrong and
nothing else: it is the same for two applications and two worlds, if the request is the same. -/
theorem serve_conceals {a : App α} {b : App β} {s : Scope} {w w₁ : World α} {w' w₂ : World β}
    {r : Request} {f g : Fault} (ha : a.Escapes s w r f w₁) (hb : b.Escapes s w' r g w₂) :
    (a.serve s w).1 = .ok (internalFrames (r.method = "HEAD")) ∧
      (b.serve s w').1 = (a.serve s w).1 ∧ (a.serve s w).2.2 = w₁.log (internalRecord r f) := by
  obtain ⟨hsent, hworld⟩ := ha.serve_eq
  obtain ⟨hsent', -⟩ := hb.serve_eq
  exact ⟨hsent, hsent'.trans hsent.symm, hworld⟩

/-- Middleware that expects something else than a response. -/
def exacting : Middleware Nat := fun _ next r w =>
  match next r w with
  | (.ok _, w) => (.error (.raised .type [.int 7, .opaqueThing]), w)
  | (.error f, w) => (.error f, w)

/-- An application with one page. -/
def pageApp (debug : Bool) (middleware : List (Middleware Nat)) (handler : Handler Nat) :
    App Nat where
  config := { debug }
  table := Route.Table.perform .empty (.add "HEAD" "/page" "page" .anonymous none)
  handlers := ⟨[("page", handler)]⟩
  middleware

/-- Asks for the page, without its body. -/
def pageScope : Scope :=
  { kind := some "http", method := some "HEAD", path := some "/page" }

/-- The request of this scope. -/
def pageRequest : Request :=
  { method := "HEAD", path := "/page", query := .ofBytes [] }

/-- A handler that says more than it should, with debugging and without, a value that is no response
and middleware that fails, seen from outside. -/
theorem serve_conceals_pageScope :
    let revealing : Handler Nat :=
      fun _ _ _ w => (.error (.raised .value [.text "the password is hunter2"]), w)
    ((pageApp false [] revealing).serve pageScope newWorld).1 = .ok (internalFrames true) ∧
      ((pageApp true [] fun _ _ _ w => (.ok .opaqueThing, w)).serve pageScope newWorld).1 =
        ((pageApp false [] revealing).serve pageScope newWorld).1 ∧
      ((pageApp true [exacting] fun _ _ _ w => (.ok (.text "page"), w)).serve pageScope
        newWorld).1 = ((pageApp false [] revealing).serve pageScope newWorld).1 := by
  intro revealing
  have hrequest : Request.ofScope pageScope [] = .ok pageRequest := rfl
  have hunsigned : (Config.credentials {}).presented pageRequest = .ok none := by decide
  have hadmits : ∀ (a : App Nat) (debug : Bool) (middleware : List (Middleware Nat))
      (handler : Handler Nat) (w : World Nat),
        ((pageApp debug middleware handler).freeze newWorld.journal).1 = .ok a →
        a.dispatcher.Admits pageRequest w ⟨"HEAD", ⟨[.literal "page"]⟩, "page", .anonymous, none⟩ []
          none w.journal := by
    intro a debug middleware handler w hfreeze
    cases hfreeze
    refine ⟨rfl, ?_, rfl⟩
    change (Config.credentials {}).resolve w.store pageRequest w.journal = (.ok none, w.journal)
    unfold Credentials.resolve
    rw [hunsigned]
  have hraised : (pageApp false [] revealing).Escapes pageScope newWorld pageRequest
      (.raised .value [.text "the password is hunter2"]) _ :=
    .of_breaks rfl hrequest rfl rfl (.raised (hadmits _ false [] revealing _ rfl) rfl rfl) rfl rfl
  have hunconverted : (pageApp true [] fun _ _ _ w => (.ok .opaqueThing, w)).Escapes pageScope
      newWorld pageRequest
      (.reply (.noResponse Value.opaqueThing.kind)) _ :=
    .of_breaks rfl hrequest rfl rfl (.unconverted (hadmits _ true [] _ _ rfl) rfl rfl rfl) rfl rfl
  have hmiddleware : (pageApp true [exacting] fun _ _ _ w => (.ok (.text "page"), w)).Escapes
      pageScope newWorld pageRequest
      (.raised .type [.int 7, .opaqueThing]) _ :=
    ⟨rfl, hrequest, ⟨_, _, rfl, rfl⟩, rfl, rfl⟩
  obtain ⟨hsent, hvalue, -⟩ := serve_conceals hraised hunconverted
  obtain ⟨-, hfailed, -⟩ := serve_conceals hraised hmiddleware
  exact ⟨hsent, hvalue, hfailed⟩

end Waypost.Service
