import Waypost.Proofs.Service.Admission

/-!
# Which faults are answered

Every fault of a dispatch is answered, with a response of the application's own where it has
registered an error handler and a plain one otherwise. What goes wrong in the answer itself is
answered by nobody: an error handler that ends with a fault, a value of it that is no response, and
a header whose name is no text.

* `Fault.ownStatus`, `Fault.ownHeaders`, `Fault.ownText`, `Fault.logged` : what the answer to a
  fault is made of;
* `draft` : the answer without the headers of the fault; `answer_eq` : all faults are answered in
  this way;
* `Named` : headers whose names are texts or bytes; `mergeHeaders_of_named` : these can be added to
  a response;
* `Unanswered` : what goes wrong in an answer; `answer_eq_error_iff` : nothing else does.
-/

namespace Waypost

namespace Fault

/-- The status that a fault stands for. -/
def ownStatus (f : Fault) : Status :=
  f.http?.elim 500 HttpError.status

/-- The headers that the answer to a fault is to have. -/
def ownHeaders (f : Fault) : List (Field × Field) :=
  f.http?.elim [] HttpError.headers

/-- What the answer says if the application has nothing to say. -/
def ownText (debug : Bool) (f : Fault) : String :=
  f.http?.elim Service.internalErrorBody (Service.detailText debug)

/-- The report of a fault. -/
def logged (r : Request) (f : Fault) : LogRecord :=
  f.http?.elim (Service.internalRecord r f) (Service.httpRecord r)

end Fault

/-! ## Headers that can be read -/

/-- Headers whose names are texts or bytes. -/
def Named (headers : List (Field × Field)) : Prop :=
  ∀ p ∈ headers, ∃ key, p.1.lowered = .ok key

/-- The name of a header in small letters, if it is a text or bytes. -/
def nameOf (p : Field × Field) : Option Payload :=
  p.1.lowered.toOption

theorem Named.tail {p : Field × Field} {rest : List (Field × Field)} (h : Named (p :: rest)) :
    Named rest :=
  fun q hq => h q (List.mem_cons_of_mem p hq)

theorem Response.findHeader_of_named {headers : List (Field × Field)} (h : Named headers)
    (wanted : Payload) :
    findHeader wanted headers =
      .ok ((headers.find? fun p => nameOf p = some wanted).map Prod.snd) := by
  induction headers with
  | nil => rfl
  | cons p rest ih =>
    obtain ⟨key, hkey⟩ := h p List.mem_cons_self
    have hrest := ih h.tail
    have hname : nameOf p = some key := by rw [nameOf, hkey]; rfl
    rw [findHeader, hkey, List.find?_cons, hname]
    dsimp only
    split_ifs with hwanted
    · rw [hwanted, decide_eq_true rfl]
      rfl
    · rw [decide_eq_false fun hsame => hwanted (Option.some.inj hsame)]
      exact hrest

namespace Service

variable {α : Type} {rules : ErrorRules α} {debug : Bool} {r : Request} {f g : Fault}
  {w w' : World α}

/-- Headers with names can be added to a response whose own have names, as far as it does not have
them. -/
theorem mergeHeaders_of_named {headers : List (Field × Field)} (hheaders : Named headers)
    {resp : Response} (hown : Named resp.headers) :
    ∃ added, List.Sublist added headers ∧
      mergeHeaders resp headers = .ok (resp.withHeaders added) := by
  induction headers generalizing resp with
  | nil =>
    refine ⟨[], List.Sublist.refl [], ?_⟩
    rw [mergeHeaders, Response.withHeaders, List.append_nil]
  | cons p rest ih =>
    obtain ⟨key, hkey⟩ := hheaders p List.mem_cons_self
    rw [mergeHeaders, Response.header?, hkey]
    dsimp only
    rw [Response.findHeader_of_named hown key]
    dsimp only
    split_ifs
    · have hadded : Named (resp.withHeader p.1 p.2).headers := by
        intro q hq
        rcases List.mem_append.mp hq with hq | hq
        · exact hown q hq
        · rw [List.mem_singleton.mp hq]
          exact ⟨key, hkey⟩
      obtain ⟨added, hsub, hmerge⟩ := ih hheaders.tail hadded
      refine ⟨p :: added, hsub.cons_cons p, ?_⟩
      rw [hmerge, Response.withHeaders, Response.withHeaders, Response.withHeader,
        List.append_assoc]
      rfl
    · obtain ⟨added, hsub, hmerge⟩ := ih hheaders.tail hown
      exact ⟨added, hsub.cons p, hmerge⟩

/-! ## Answers -/

/-- The answer to a fault without the headers of the fault. -/
def draft (rules : ErrorRules α) (debug : Bool) (r : Request) (f : Fault) :
    Act α Response := fun w =>
  match rules.find? f.kind f.ownStatus.value with
  | none => (.ok (.ofText (f.ownText debug) f.ownStatus), w)
  | some h =>
    match h.call r f w with
    | (.error g, w) => (.error g, w)
    | (.ok resp, w) => (.ok (keepStatus f.ownStatus resp), w)

theorem answer_of_http?_eq_none (hnone : f.http? = none) :
    answer rules debug r f w = answerInternal rules r f w := by
  cases f with
  | http e => cases hnone
  | _ => rfl

/-- All faults are answered in one way. -/
theorem answer_eq (rules : ErrorRules α) (debug : Bool) (r : Request) (f : Fault) (w : World α) :
    answer rules debug r f w =
      match draft rules debug r f (w.log (f.logged r)) with
      | (.error g, w) => (.error g, w)
      | (.ok resp, w) =>
        match mergeHeaders resp f.ownHeaders with
        | .error l => (.error (.lacks l), w)
        | .ok resp => (.ok resp, w) := by
  cases hhttp : f.http? with
  | some e =>
    obtain rfl : f = .http e := by
      cases f with
      | http e' => exact congrArg Fault.http (Option.some.inj hhttp)
      | _ => cases hhttp
    rfl
  | none =>
    have hstatus : f.ownStatus = 500 := by rw [Fault.ownStatus, hhttp]; rfl
    have hheaders : f.ownHeaders = [] := by rw [Fault.ownHeaders, hhttp]; rfl
    have htext : f.ownText debug = internalErrorBody := by rw [Fault.ownText, hhttp]; rfl
    have hreport : f.logged r = internalRecord r f := by rw [Fault.logged, hhttp]; rfl
    rw [answer_of_http?_eq_none hhttp, answerInternal, draft, hstatus, hheaders, htext, hreport]
    dsimp only [Status.value]
    cases rules.find? f.kind 500 with
    | none => rfl
    | some h =>
      dsimp only
      rcases h.call r f (w.log (internalRecord r f)) with ⟨_ | _, _⟩ <;> rfl

/-! ## What goes wrong in an answer -/

/-- What an error handler does with a fault. -/
def ErrorHandler.run (h : ErrorHandler α) (r : Request) (f : Fault) : Act α Value :=
  match h with
  | .plain run => run
  | .ofRequest run => run r
  | .ofFault run => run r f

theorem ErrorHandler.call_eq (h : ErrorHandler α) (r : Request) (f : Fault) (w : World α) :
    h.call r f w = responded (h.run r f w) := by
  cases h <;> rfl

/-- The fault that the answer to a fault ends with, and the world that this leaves. -/
inductive Unanswered (rules : ErrorRules α) (debug : Bool) (r : Request) (f : Fault) (w : World α) :
    Fault → World α → Prop where
  /-- The error handler for the fault ends with a fault. -/
  | raised {h : ErrorHandler α} {g : Fault} {w' : World α}
      (hrule : rules.find? f.kind f.ownStatus.value = some h)
      (hrun : h.run r f w = (.error g, w')) : Unanswered rules debug r f w g w'
  /-- The value of the error handler is no response. -/
  | unconverted {h : ErrorHandler α} {v : Value} {err : ReplyError} {w' : World α}
      (hrule : rules.find? f.kind f.ownStatus.value = some h) (hrun : h.run r f w = (.ok v, w'))
      (hvalue : v.toResponse = .error err) : Unanswered rules debug r f w (.reply err) w'
  /-- A header that is in the way has no name. -/
  | unnamed {resp : Response} {l : Lacks} {w' : World α}
      (hdraft : draft rules debug r f w = (.ok resp, w'))
      (hmerge : mergeHeaders resp f.ownHeaders = .error l)
      (hnames : ¬ Named (resp.headers ++ f.ownHeaders)) : Unanswered rules debug r f w (.lacks l) w'

theorem draft_of_rule {h : ErrorHandler α} (hrule : rules.find? f.kind f.ownStatus.value = some h) :
    draft rules debug r f w =
      match responded (h.run r f w) with
      | (.error g, w) => (.error g, w)
      | (.ok resp, w) => (.ok (keepStatus f.ownStatus resp), w) := by
  unfold draft
  rw [hrule]
  dsimp only
  rw [h.call_eq]
  rfl

/-- A draft fails where the error handler fails or its value is no response. -/
theorem unanswered_of_draft (hdraft : draft rules debug r f w = (.error g, w')) :
    Unanswered rules debug r f w g w' := by
  cases hrule : rules.find? f.kind f.ownStatus.value with
  | none =>
    rw [draft, hrule] at hdraft
    cases hdraft
  | some h =>
    rw [draft_of_rule hrule] at hdraft
    rcases hrun : h.run r f w with ⟨g₁ | v, w₁⟩
    · rw [hrun] at hdraft
      cases hdraft
      exact .raised hrule hrun
    · rw [hrun, responded] at hdraft
      cases hvalue : v.toResponse with
      | error err =>
        rw [hvalue] at hdraft
        cases hdraft
        exact .unconverted hrule hrun hvalue
      | ok resp =>
        rw [hvalue] at hdraft
        cases hdraft

theorem answer_eq_error_iff :
    answer rules debug r f w = (.error g, w') ↔
      Unanswered rules debug r f (w.log (f.logged r)) g w' := by
  rw [answer_eq]
  constructor
  · intro h
    rcases hdraft : draft rules debug r f (w.log (f.logged r)) with ⟨g₁ | resp, w₁⟩
    · rw [hdraft] at h
      cases h
      exact unanswered_of_draft hdraft
    · rw [hdraft] at h
      dsimp only at h
      cases hmerge : mergeHeaders resp f.ownHeaders with
      | ok resp' =>
        rw [hmerge] at h
        cases h
      | error l =>
        rw [hmerge] at h
        cases h
        refine .unnamed hdraft hmerge fun hnamed => ?_
        have hown : Named resp.headers := fun p hp => hnamed p (List.mem_append_left _ hp)
        have hheaders : Named f.ownHeaders := fun p hp => hnamed p (List.mem_append_right _ hp)
        obtain ⟨added, -, hok⟩ := mergeHeaders_of_named hheaders hown
        rw [hmerge] at hok
        cases hok
  · intro h
    cases h with
    | raised hrule hrun =>
      rw [draft_of_rule hrule, hrun]
      rfl
    | unconverted hrule hrun hvalue =>
      rw [draft_of_rule hrule, hrun, responded, hvalue]
    | unnamed hdraft hmerge hnames =>
      rw [hdraft]
      dsimp only
      rw [hmerge]

/-- A fault that no rule is for is answered with its text, under its status and with its headers. -/
theorem answer_of_unruled (hrule : rules.find? f.kind f.ownStatus.value = none)
    (hheaders : Named f.ownHeaders) :
    ∃ added, List.Sublist added f.ownHeaders ∧
      answer rules debug r f w =
        (.ok ((Response.ofText (f.ownText debug) f.ownStatus).withHeaders added),
          w.log (f.logged r)) := by
  have hown : Named (Response.ofText (f.ownText debug) f.ownStatus).headers :=
    fun _ hp => absurd hp List.not_mem_nil
  obtain ⟨added, hsub, hmerge⟩ := mergeHeaders_of_named hheaders hown
  refine ⟨added, hsub, ?_⟩
  rw [answer_eq, draft, hrule]
  dsimp only
  rw [hmerge]

namespace Dispatcher

theorem handle_of_fault {d : Dispatcher α} (hfault : d.dispatch .outside r w = (.error f, w')) :
    d.handle r w = answer d.rules d.debug r f w' := by
  unfold handle
  rw [hfault]

/-- A request ends with a fault exactly if the dispatch does and the answer goes wrong. A fault that
no rule is for, and whose headers have names, is always answered. -/
theorem handle_eq_error_iff (d : Dispatcher α) (r : Request) (w : World α) :
    (∀ g w', d.handle r w = (.error g, w') ↔
        ∃ f w₁, d.dispatch .outside r w = (.error f, w₁) ∧
          Unanswered d.rules d.debug r f (w₁.log (f.logged r)) g w') ∧
      ∀ f w₁, d.dispatch .outside r w = (.error f, w₁) →
        d.rules.find? f.kind f.ownStatus.value = none → Named f.ownHeaders →
        ∃ added, List.Sublist added f.ownHeaders ∧
          d.handle r w =
            (.ok ((Response.ofText (f.ownText d.debug) f.ownStatus).withHeaders added),
              w₁.log (f.logged r)) := by
  constructor
  · intro g w'
    rcases hdispatch : d.dispatch .outside r w with ⟨f | resp, w₁⟩
    · rw [handle_of_fault hdispatch, answer_eq_error_iff]
      constructor
      · intro h
        exact ⟨f, w₁, rfl, h⟩
      · rintro ⟨f', w₁', hsame, h⟩
        cases hsame
        exact h
    · have hok : d.handle r w = (.ok resp, w₁) := by
        unfold handle
        rw [hdispatch]
      rw [hok]
      constructor
      · intro h
        cases h
      · rintro ⟨f, w₁', h, -⟩
        cases h
  · intro f w₁ hfault hrule hheaders
    rw [handle_of_fault hfault]
    exact answer_of_unruled hrule hheaders

theorem handle_eq_error_iff_deletion :
    ∃ added, List.Sublist added [(Field.text "Allow", Field.text "GET")] ∧
      accountService.handle { method := "DELETE", path := "/account/ann" } newWorld =
        (.ok ((Response.ofText "Method not allowed. Allowed methods: GET" 405).withHeaders added),
          newWorld.log
            { severity := .debug, logger := .server
              message :=
                "405 DELETE /account/ann: Method not allowed. Allowed methods: GET" }) := by
  refine (handle_eq_error_iff accountService { method := "DELETE", path := "/account/ann" }
    newWorld).2
    (.http (.methodNotAllowed ["GET"])) newWorld rfl rfl ?_
  intro p hp
  rw [List.mem_singleton.mp hp]
  exact ⟨_, rfl⟩

/-- A service without routes, whose error handler for what is not found has a fault of its own. -/
def brittleService : Dispatcher Nat where
  table := .empty
  handlers := {}
  rules := [(.status 404, .plain fun w => (.error (.raised .value [.text "boom"]), w))]

/-- Not every request gets a response. -/
theorem not_forall_handle_ok :
    ¬ ∀ (d : Dispatcher Nat) (r : Request) (w : World Nat), ∃ resp w',
      d.handle r w = (.ok resp, w') := by
  intro h
  obtain ⟨resp, w', hok⟩ := h brittleService { method := "GET", path := "/" } newWorld
  cases hok

end Dispatcher

end Service

end Waypost
