import Waypost.Proofs.Service.Admission

/-!
# The runs of handlers

A dispatch runs the handler of the matched route, or it is refused before any handler has run.
Whatever handlers do, one may note beside it which of them was run, with which parameters and with
which session before it, and the dispatcher does not notice.

* `Admits`, `Refuses` : what a request has to be like for a handler to run, and the reasons to
  refuse it;
* `dispatch_cases` : a dispatch does one or the other;
* `Invocation`, `noting` : a run of a handler, and the dispatcher whose handlers note their runs;
  without the notes it is the dispatcher itself (`dispatch_noting`);
* `invocations`, `invocations_cases` : the runs of handlers in a dispatch, which are one or none;
* `mem_invocations_iff` : what is to be said of the session that a handler sees.
-/

namespace Waypost.Service

open Access Time

variable {α : Type}

/-! ## What a dispatch can do -/

namespace Dispatcher

/-- A request matches a route, presents a session or none, and the guard lets it through to the
route's handler. -/
structure Admits (d : Dispatcher α) (r : Request) (w : World α) (e : Route.Entry) (params : Params)
    (c : Option Session) (j : Journal) : Prop where
  matched : d.table.lookup r.method r.path = .matched e params
  presents : d.credentials.resolve w.store r w.journal = (.ok c, j)
  allowed : guard e.level c (d.clock.getD w.now) = .allowed

/-- The reasons to refuse a request before any handler has run, with the fault that says so. -/
inductive Refuses (d : Dispatcher α) (r : Request) (w : World α) : Fault → Prop where
  | noRoute {path : String} (hmatch : d.table.lookup r.method r.path = .noRoute path) :
      Refuses d r w (.http .notFound)
  | methodNotAllowed {path : String} {allowed : List String}
      (hmatch : d.table.lookup r.method r.path = .methodNotAllowed path allowed) :
      Refuses d r w (.http (.methodNotAllowed allowed))
  | unread {e : Route.Entry} {params : Params} {f : Fault} {j : Journal}
      (hmatch : d.table.lookup r.method r.path = .matched e params)
      (hresolve : d.credentials.resolve w.store r w.journal = (.error f, j)) : Refuses d r w f
  | unauthenticated {e : Route.Entry} {params : Params} {c : Option Session} {j : Journal}
      (hmatch : d.table.lookup r.method r.path = .matched e params)
      (hresolve : d.credentials.resolve w.store r w.journal = (.ok c, j))
      (hguard : guard e.level c (d.clock.getD w.now) = .unauthenticated) :
      Refuses d r w (.http .unauthorized)
  | insufficientLevel {e : Route.Entry} {params : Params} {c : Option Session} {j : Journal}
      (hmatch : d.table.lookup r.method r.path = .matched e params)
      (hresolve : d.credentials.resolve w.store r w.journal = (.ok c, j))
      (hguard : guard e.level c (d.clock.getD w.now) = .insufficientLevel) :
      Refuses d r w (.http .forbidden)
  | unregistered {e : Route.Entry} {params : Params} {c : Option Session} {j : Journal}
      (h : Admits d r w e params c j)
      (hhandler : d.handlers.get? e.handlerId = none) : Refuses d r w (.noHandler e.handlerId)

/-- A dispatch runs the handler of a request that is admitted, or it ends with the fault of one that
is refused. -/
theorem dispatch_cases (d : Dispatcher α) (ctx : Context) (r : Request) (w : World α) :
    (∃ e params c j handler, Admits d r w e params c j ∧
      d.handlers.get? e.handlerId = some handler ∧
        d.dispatch ctx r w =
          responded (handler params (r.withPathParams params) { ctx with session := c }
            (w.withJournal j))) ∨
      ∃ f j, Refuses d r w f ∧ d.dispatch ctx r w = (.error f, w.withJournal j) := by
  cases hmatch : d.table.lookup r.method r.path with
  | noRoute path =>
    right
    refine ⟨_, w.journal, .noRoute hmatch, ?_⟩
    unfold dispatch
    rw [hmatch]
    rfl
  | methodNotAllowed path allowed =>
    right
    refine ⟨_, w.journal, .methodNotAllowed hmatch, ?_⟩
    unfold dispatch
    rw [hmatch]
    rfl
  | matched e params =>
    rw [dispatch_of_matched hmatch]
    cases hresolve : d.credentials.resolve w.store r w.journal with
    | mk result j =>
      cases result with
      | error f =>
        right
        refine ⟨f, j, .unread hmatch hresolve, ?_⟩
        unfold serve
        rw [hresolve]
      | ok c =>
        cases hguard : guard e.level c (d.clock.getD w.now) with
        | unauthenticated =>
          have hdenied : ∃ j', d.serve ctx e params r w =
              (.error (.http .unauthorized), w.withJournal j') :=
            serve_of_denied hresolve (Or.inl ⟨hguard, rfl⟩)
          obtain ⟨j', hserve⟩ := hdenied
          exact Or.inr ⟨_, j', .unauthenticated hmatch hresolve hguard, hserve⟩
        | insufficientLevel =>
          have hdenied : ∃ j', d.serve ctx e params r w =
              (.error (.http .forbidden), w.withJournal j') :=
            serve_of_denied hresolve (Or.inr ⟨hguard, rfl⟩)
          obtain ⟨j', hserve⟩ := hdenied
          exact Or.inr ⟨_, j', .insufficientLevel hmatch hresolve hguard, hserve⟩
        | allowed =>
          cases hhandler : d.handlers.get? e.handlerId with
          | some handler =>
            exact Or.inl ⟨e, params, c, j, handler, ⟨hmatch, hresolve, hguard⟩, hhandler,
              serve_of_allowed hresolve hguard hhandler⟩
          | none =>
            right
            refine ⟨_, j, .unregistered ⟨hmatch, hresolve, hguard⟩ hhandler, ?_⟩
            unfold serve authorize invoke
            rw [hresolve]
            dsimp only
            rw [hguard]
            dsimp only
            rw [hhandler]

end Dispatcher

/-! ## Notes -/

/-- A run of a handler: whose it is, the parameters that it gets and the session that it sees. -/
structure Invocation where
  handlerId : String
  params : Params
  session : Option Session
deriving DecidableEq, Repr

/-- The world with something else for the application's own. -/
def World.withOwn {β : Type} (w : World α) (own : β) : World β :=
  { store := w.store, now := w.now, journal := w.journal, inbox := w.inbox, own }

/-- The world without the notes. -/
def World.forget (w : World (α × List Invocation)) : World α :=
  w.withOwn w.own.1

def forgetAfter {β : Type} (r : β × World (α × List Invocation)) : β × World α :=
  (r.1, r.2.forget)

/-- A handler that notes its runs. -/
def noting (id : String) (h : Handler α) : Handler (α × List Invocation) := fun params r ctx w =>
  let (result, w') := h params r ctx w.forget
  (result, w'.withOwn (w'.own, w.own.2 ++ [⟨id, params, ctx.session⟩]))

namespace Dispatcher

/-- The dispatcher whose handlers note their runs. -/
def noting (d : Dispatcher α) : Dispatcher (α × List Invocation) where
  table := d.table
  handlers := ⟨d.handlers.handlers.map fun p => (p.1, Service.noting p.1 p.2)⟩
  credentials := d.credentials
  clock := d.clock
  debug := d.debug

theorem get?_noting (d : Dispatcher α) (id : String) :
    d.noting.handlers.get? id = (d.handlers.get? id).map (Service.noting id) := by
  unfold Registry.get? noting
  dsimp only
  induction d.handlers.handlers with
  | nil => rfl
  | cons p handlers ih =>
    rw [List.map_cons, Keyed.get?_cons, Keyed.get?_cons, ih]
    split_ifs with hid
    · rw [hid]
      rfl
    · rfl

variable (d : Dispatcher α) (ctx : Context) (r : Request) (w : World (α × List Invocation))

theorem invoke_noting (e : Route.Entry) (params : Params) (c : Option Session) :
    forgetAfter (d.noting.invoke ctx e params c r w) = d.invoke ctx e params c r w.forget := by
  unfold invoke
  rw [get?_noting]
  cases d.handlers.get? e.handlerId with
  | none => rfl
  | some handler =>
    dsimp only [Option.map_some, Service.noting]
    cases handler params (r.withPathParams params) { ctx with session := c } w.forget with
    | mk result w' =>
      cases result with
      | error f => rfl
      | ok v =>
        dsimp only
        cases v.toResponse <;> rfl

theorem serve_noting (e : Route.Entry) (params : Params) :
    forgetAfter (d.noting.serve ctx e params r w) = d.serve ctx e params r w.forget := by
  unfold serve
  rw [show d.noting.credentials.resolve w.store r w.journal =
    d.credentials.resolve w.forget.store r w.forget.journal from rfl,
    show d.noting.clock.getD w.now = d.clock.getD w.forget.now from rfl]
  cases d.credentials.resolve w.forget.store r w.forget.journal with
  | mk result j =>
    cases result with
    | error f => rfl
    | ok c =>
      dsimp only
      cases authorize e.level c (d.clock.getD w.forget.now) r j with
      | mk objection j =>
        cases objection with
        | some err => rfl
        | none => exact invoke_noting d ctx r (w.withJournal j) e params c

/-- Without the notes, the dispatch that takes them is the dispatch itself. -/
theorem dispatch_noting : forgetAfter (d.noting.dispatch ctx r w) = d.dispatch ctx r w.forget := by
  unfold dispatch
  rw [show d.noting.table = d.table from rfl]
  cases d.table.lookup r.method r.path with
  | matched e params => exact serve_noting d ctx r w e params
  | methodNotAllowed path allowed => rfl
  | noRoute path => rfl

/-! ## The runs of handlers in a dispatch -/

section Runs

variable {d : Dispatcher α} {r : Request} {w : World α}

theorem Admits.of_noting {own : α × List Invocation} {e : Route.Entry} {params : Params}
    {c : Option Session} {j : Journal} (h : Admits d.noting r (w.withOwn own) e params c j) :
    Admits d r w e params c j :=
  ⟨h.matched, h.presents, h.allowed⟩

theorem Refuses.of_noting {own : α × List Invocation} {f : Fault}
    (h : Refuses d.noting r (w.withOwn own) f) :
    Refuses d r w f := by
  cases h with
  | noRoute hmatch => exact .noRoute hmatch
  | methodNotAllowed hmatch => exact .methodNotAllowed hmatch
  | unread hmatch hresolve => exact .unread hmatch hresolve
  | unauthenticated hmatch hresolve hguard => exact .unauthenticated hmatch hresolve hguard
  | insufficientLevel hmatch hresolve hguard => exact .insufficientLevel hmatch hresolve hguard
  | unregistered h hhandler =>
    rw [get?_noting, Option.map_eq_none_iff] at hhandler
    exact .unregistered h.of_noting hhandler

end Runs

/-- The runs of handlers in a dispatch. -/
def invocations (d : Dispatcher α) (ctx : Context) (r : Request) (w : World α) : List Invocation :=
  (d.noting.dispatch ctx r (w.withOwn (w.own, []))).2.own.2

theorem responded_snd (x : Except Fault Value × World α) : (responded x).2 = x.2 := by
  obtain ⟨result, w⟩ := x
  unfold responded
  cases result with
  | error f => rfl
  | ok v =>
    dsimp only
    cases v.toResponse <;> rfl

/-- A request that is admitted runs one handler, that of its route; one that is refused runs
none. -/
theorem invocations_cases (d : Dispatcher α) (ctx : Context) (r : Request) (w : World α) :
    (∃ e params c j, Admits d r w e params c j ∧ d.handlers.get? e.handlerId ≠ none ∧
        d.invocations ctx r w = [⟨e.handlerId, params, c⟩]) ∨
      ∃ f, Refuses d r w f ∧ (d.dispatch ctx r w).1 = .error f ∧ d.invocations ctx r w = [] := by
  -- The cases are those of the dispatch that takes notes; what it says of the result holds of `d`
  -- by erasure.
  have herase := d.dispatch_noting ctx r (w.withOwn (w.own, []))
  unfold invocations
  rcases dispatch_cases d.noting ctx r (w.withOwn (w.own, [])) with
    ⟨e, params, c, j, handler, hadmits, hhandler, hdispatch⟩ | ⟨f, j, hrefuses, hdispatch⟩
  · left
    rw [get?_noting, Option.map_eq_some_iff] at hhandler
    obtain ⟨handler, hhandler, rfl⟩ := hhandler
    refine ⟨e, params, c, j, hadmits.of_noting, by simp [hhandler], ?_⟩
    rw [hdispatch, responded_snd]
    rfl
  · right
    rw [hdispatch] at herase ⊢
    exact ⟨f, hrefuses.of_noting, congrArg Prod.fst herase.symm, rfl⟩

/-- What is admitted is not refused, unless nobody has registered the handler. -/
theorem Admits.not_refuses {d : Dispatcher α} {r : Request} {w : World α} {e : Route.Entry}
    {params : Params} {c : Option Session} {j : Journal} (h : Admits d r w e params c j)
    (hhandler : d.handlers.get? e.handlerId ≠ none) (f : Fault) : ¬ Refuses d r w f := by
  obtain ⟨hmatch, hresolve, hguard⟩ := h
  rintro (hno | hno | ⟨hm, hr⟩ | ⟨hm, hr, hg⟩ | ⟨hm, hr, hg⟩ | ⟨⟨hm, -, -⟩, hh⟩)
  all_goals simp_all

/-! ## The session that a handler sees -/

/-- A handler sees the session that the request presents. If its route asks for a level, this is a
session of a sufficient level that has not ended by the time of the guard; if it asks for none, it
is whatever session the request presents, and it may have ended. -/
theorem mem_invocations_iff (d : Dispatcher α) (ctx : Context) (r : Request) (w : World α)
    (v : Invocation) :
    v ∈ d.invocations ctx r w ↔
      ∃ e j, d.table.lookup r.method r.path = .matched e v.params ∧ v.handlerId = e.handlerId ∧
        d.handlers.get? e.handlerId ≠ none ∧
        d.credentials.resolve w.store r w.journal = (.ok v.session, j) ∧
        (e.level = .anonymous ∨ ∃ x, v.session = some x ∧ d.clock.getD w.now < x.expiresAt ∧
          e.level ≤ x.level) := by
  rcases d.invocations_cases ctx r w with
    ⟨e, params, c, j, hadmits, hhandler, hruns⟩ | ⟨f, hrefuses, -, hruns⟩
  · rw [hruns, List.mem_singleton]
    constructor
    · rintro rfl
      exact ⟨e, j, hadmits.matched, rfl, hhandler, hadmits.presents,
        guard_eq_allowed_iff.mp hadmits.allowed⟩
    · rintro ⟨e', j', hmatch, hid, -, hresolve, -⟩
      obtain ⟨rfl, hparams⟩ := Route.Outcome.matched.inj (hadmits.matched.symm.trans hmatch)
      obtain ⟨hsession, -⟩ := Prod.mk.inj (hadmits.presents.symm.trans hresolve)
      rw [hparams, Except.ok.inj hsession, ← hid]
  · rw [hruns]
    constructor
    · nofun
    · rintro ⟨e, j, hmatch, -, hhandler, hresolve, hwho⟩
      exact absurd hrefuses
        (Admits.not_refuses ⟨hmatch, hresolve, guard_eq_allowed_iff.mpr hwho⟩ hhandler f)

end Dispatcher

/-- A service with one route, which is for everybody. -/
def homeService : Dispatcher Nat where
  table := Route.Table.perform .empty (.add "GET" "/" "home" .anonymous none)
  handlers := ⟨[("home", countRun)]⟩

/-- A session is issued, and a week goes by. -/
def homeActions : List Action :=
  [.issue "ann" .authenticated none, .advance 604800000000]

/-- A request with the token of that session in its header. -/
def homeRequest : Request :=
  { method := "GET"
    path := "/"
    headers := ⟨[(Codec.encodeUtf8 "x-flare-token", Codec.encodeUtf8 "t")]⟩ }

/-- The handler of a route that asks for no level sees a session that has ended. -/
theorem not_forall_session_live :
    ¬ ∀ (d : Dispatcher Nat) (w : World Nat) (ledger : List Deed), Run d w ledger →
      ∀ ctx r, ∀ v ∈ d.invocations ctx r w, v.session = none ∨
        ∃ x, v.session = some x ∧ d.clock.getD w.now < x.expiresAt := by
  intro h
  have hrun : Run homeService (Action.performAll newWorld homeActions) [.issued
      ⟨"t", .authenticated, 604800000000, "ann"⟩] :=
    ((Run.start rfl).act (.issue "ann" .authenticated none)).act (.advance 604800000000)
  have hseen : homeService.invocations .outside homeRequest
      (Action.performAll newWorld homeActions) =
      [⟨"home", [], some ⟨"t", .authenticated, 604800000000, "ann"⟩⟩] := rfl
  rcases h _ _ _ hrun .outside homeRequest _ (hseen ▸ List.mem_singleton_self _) with
    hnone | ⟨x, hsome, hend⟩
  · cases hnone
  · obtain rfl := Option.some.inj hsome
    exact absurd hend (by decide)

end Waypost.Service
