import Waypost.Proofs.Browser.Process
import Waypost.Proofs.Service.Invocation

/-!
# The gate of the browser and the gate of the service

A page and the service that it comes from go by the same routes, and both ask the guard. The page
may know of a session that has ended, or may have forgotten it.

* `Ruling`, `ruling` : what routes and guard make of a path for one who presents a credential;
* `eventOf`, `process_eq_eventOf` : a page reports the ruling on the path of a click;
* `Answers`, `answers_ruling` : a service answers a `GET` by the ruling on its path, and in no two
  ways (`Answers.unique`);
* `gates_agree` : page and service come to the same ruling.
-/

namespace Waypost

open Access Time

/-- What routes and guard make of a path. -/
inductive Ruling where
  | unknown
  | unauthenticated
  | insufficientLevel
  | admitted (handlerId : String) (params : List (String × String))
deriving DecidableEq, Repr

/-- The ruling on a path for one who presents a credential. -/
def ruling (t : Route.Table) (c : Option Session) (now : Instant) (path : String) : Ruling :=
  match t.lookup "GET" path with
  | .matched e params =>
    match guard e.level c now with
    | .allowed => .admitted e.handlerId params
    | .unauthenticated => .unauthenticated
    | .insufficientLevel => .insufficientLevel
  | _ => .unknown

section

variable {t : Route.Table} {c : Option Session} {now : Instant} {path : String}
  {entry : Route.Entry}
  {params : List (String × String)}

theorem ruling_of_unmatched (h : ∀ entry params, t.lookup "GET" path ≠ .matched entry params) :
    ruling t c now path = .unknown := by
  unfold ruling
  split
  · rename_i entry params hmatch
    exact absurd hmatch (h entry params)
  · rfl

theorem ruling_of_matched (h : t.lookup "GET" path = .matched entry params) :
    ruling t c now path =
      match guard entry.level c now with
      | .allowed => .admitted entry.handlerId params
      | .unauthenticated => .unauthenticated
      | .insufficientLevel => .insufficientLevel := by
  unfold ruling
  rw [h]

/-- A session that has ended is worth as much as none. -/
theorem ruling_live? (t : Route.Table) (c : Option Session) (now : Instant) (path : String) :
    ruling t (live? c now) now path = ruling t c now path := by
  unfold ruling
  simp only [guard_live?]

end

/-! ## The page -/

namespace Browser

/-- The event that tells of the ruling on an intent. -/
def eventOf (i : Intent) : Ruling → Event
  | .unknown => .failed i (.navigation (.noView i.path))
  | .unauthenticated => .blocked i .unauthenticated none
  | .insufficientLevel => .blocked i .insufficientLevel none
  | .admitted viewId params => .settled i viewId params

variable {i : Intent} {ρ : Ruling}

theorem eventOf_eq_settled {id : String} {params : List (String × String)} :
    eventOf i ρ = .settled i id params ↔ ρ = .admitted id params := by
  cases ρ <;> simp [eventOf]

theorem eventOf_eq_unauthenticated :
    (∃ path, eventOf i ρ = .blocked i .unauthenticated path) ↔ ρ = .unauthenticated := by
  cases ρ <;> simp [eventOf]

theorem eventOf_eq_insufficientLevel :
    (∃ path, eventOf i ρ = .blocked i .insufficientLevel path) ↔ ρ = .insufficientLevel := by
  cases ρ <;> simp [eventOf]

theorem eventOf_eq_failed : (∃ f, eventOf i ρ = .failed i f) ↔ ρ = .unknown := by
  cases ρ <;> simp [eventOf]

namespace Engine

variable {ω : Type} {e : Engine ω} {c : Option Session}

/-- An intent that the page itself has, and that can be written, ends as it is ruled. -/
theorem Ends.eq_eventOf {ev : Event} {s : Standing} (h : Ends e i ev s)
    (hguard : e.guard = Access.guard) (hread : e.credential.1 = .ok c)
    (hinner : i.trigger.isExternal = false) (hwrite : e.refuses e.writes (writeOf i) = false) :
    ev = eventOf i (ruling e.views c e.now i.path) := by
  cases h with
  | settled hview hread' hallowed _ =>
    obtain rfl := Except.ok.inj (hread.symm.trans hread')
    rw [hguard] at hallowed
    rw [ruling_of_matched hview, hallowed]
    rfl
  | unwritten err _ _ hrefused =>
    rw [hwrite] at hrefused
    cases hrefused
  | refused hrefusal hturned =>
    -- Only moves of the browser are undone.
    cases hturned with
    | undone houter _ => simp [hinner] at houter
    | stranded houter _ => simp [hinner] at houter
    | dismissed _ =>
      cases hrefusal with
      | unknown hview =>
        rw [ruling_of_unmatched hview]
        rfl
      | denied hview hread' hdenied =>
        obtain rfl := Except.ok.inj (hread.symm.trans hread')
        rw [hguard] at hdenied ⊢
        rw [ruling_of_matched hview]
        cases hverdict : Access.guard _ c e.now with
        | allowed => exact absurd hverdict hdenied
        | unauthenticated => rfl
        | insufficientLevel => rfl

/-- Dealing with such an intent tells of the ruling on its path. -/
theorem process_eq_eventOf (tell : Event → Engine ω → Engine ω) (hguard : e.guard = Access.guard)
    (hread : e.credential.1 = .ok c) (hinner : i.trigger.isExternal = false)
    (hwrite : e.refuses e.writes (writeOf i) = false) :
    ∃ ev e₁, process tell e i = (.ok ev, { closing ev (tell ev e₁) with phase := .idle }) ∧
      ev = eventOf i (ruling e.views c e.now i.path) := by
  rcases process_spec tell e i with ⟨f, e₁, -, hfail, -, -⟩ | ⟨ev, e₁, hprocess, -, hends⟩
  · rw [hread] at hfail
    cases hfail
  · exact ⟨ev, e₁, hprocess, hends.eq_eventOf hguard hread hinner hwrite⟩

end Engine

end Browser

/-! ## The service -/

namespace Service

open Dispatcher

variable {α : Type} {d : Dispatcher α} {ctx : Context} {r : Request} {w : World α}

/-- A request ends with an error of the dispatcher's own: no handler has run, which might have ended
with the same one. -/
def Dispatcher.TurnsAway (d : Dispatcher α) (ctx : Context) (r : Request) (w : World α)
    (err : HttpError) : Prop :=
  (d.dispatch ctx r w).1 = .error (.http err) ∧ d.invocations ctx r w = []

/-- The ways in which a request is answered according to a ruling. -/
inductive Answers (d : Dispatcher α) (ctx : Context) (r : Request) (w : World α) :
    Ruling → Prop where
  | admitted {id : String} {params : Params} (c : Option Session)
      (h : d.invocations ctx r w = [⟨id, params, c⟩]) : Answers d ctx r w (.admitted id params)
  | unauthenticated (h : d.TurnsAway ctx r w .unauthorized) : Answers d ctx r w .unauthenticated
  | insufficientLevel (h : d.TurnsAway ctx r w .forbidden) : Answers d ctx r w .insufficientLevel
  | notFound (h : d.TurnsAway ctx r w .notFound) : Answers d ctx r w .unknown
  | methodNotAllowed {allowed : List String} (h : d.TurnsAway ctx r w (.methodNotAllowed allowed)) :
      Answers d ctx r w .unknown

theorem Dispatcher.TurnsAway.kind_eq {err err' : HttpError} (h : d.TurnsAway ctx r w err)
    (h' : d.TurnsAway ctx r w err') :
    err.kind = err'.kind := by
  have hsame := h.1.symm.trans h'.1
  rw [Fault.http.inj (Except.error.inj hsame)]

theorem Dispatcher.TurnsAway.invocations_ne {err : HttpError} (h : d.TurnsAway ctx r w err)
    (v : Invocation) :
    d.invocations ctx r w ≠ [v] := by
  rw [h.2]
  simp

/-- A request is not answered according to two rulings. -/
theorem Answers.unique {ρ ρ' : Ruling} (h : Answers d ctx r w ρ) (h' : Answers d ctx r w ρ') :
    ρ = ρ' := by
  cases h with
  | admitted c h =>
    cases h' with
    | admitted c' h' =>
      have hsame := List.singleton_inj.mp (h.symm.trans h')
      simp only [Invocation.mk.injEq] at hsame
      rw [hsame.1, hsame.2.1]
    | _ h' => exact absurd h (h'.invocations_ne _)
  | _ h =>
    -- Two errors that turn one request away are of one kind.
    cases h' with
    | admitted c' h' => exact absurd h' (h.invocations_ne _)
    | _ h' => first | rfl | exact nomatch h.kind_eq h'

theorem Answers.eq_iff {ρ ρ' : Ruling} (h : Answers d ctx r w ρ) : ρ = ρ' ↔ Answers d ctx r w ρ' :=
  ⟨fun heq => heq ▸ h, h.unique⟩

/-- A `GET` is answered according to the ruling on its path. -/
theorem answers_ruling (ctx : Context) {c : Option Session} {j : Journal} (hget : r.method = "GET")
    (hresolve : d.credentials.resolve w.store r w.journal = (.ok c, j))
    (hregistered : ∀ entry params, d.table.lookup "GET" r.path = .matched entry params →
      d.handlers.get? entry.handlerId ≠ none) :
    Answers d ctx r w (ruling d.table c (d.clock.getD w.now) r.path) := by
  have hsame : ∀ {c' j'}, d.credentials.resolve w.store r w.journal = (.ok c', j') →
      c' = c := fun h =>
    Except.ok.inj (Prod.mk.inj (h.symm.trans hresolve)).1
  rcases d.invocations_cases ctx r w with
    ⟨e, params, c', j', ⟨hmatch, hpresents, hallowed⟩, -, hruns⟩ | ⟨f, hrefuses, hfault, hruns⟩
  · obtain rfl := hsame hpresents
    rw [hget] at hmatch
    rw [ruling_of_matched hmatch, hallowed]
    exact .admitted c' hruns
  · cases hrefuses with
    | noRoute hmatch =>
      rw [hget] at hmatch
      rw [ruling_of_unmatched (by simp [hmatch])]
      exact .notFound ⟨hfault, hruns⟩
    | methodNotAllowed hmatch =>
      rw [hget] at hmatch
      rw [ruling_of_unmatched (by simp [hmatch])]
      exact .methodNotAllowed ⟨hfault, hruns⟩
    | unread _ hfail => cases hresolve.symm.trans hfail
    | unauthenticated hmatch hpresents hguard =>
      obtain rfl := hsame hpresents
      rw [hget] at hmatch
      rw [ruling_of_matched hmatch, hguard]
      exact .unauthenticated ⟨hfault, hruns⟩
    | insufficientLevel hmatch hpresents hguard =>
      obtain rfl := hsame hpresents
      rw [hget] at hmatch
      rw [ruling_of_matched hmatch, hguard]
      exact .insufficientLevel ⟨hfault, hruns⟩
    | unregistered hadmits hhandler =>
      have hmatch := hadmits.matched
      rw [hget] at hmatch
      exact absurd hhandler (hregistered _ _ hmatch)

end Service

/-! ## Both -/

section

open Browser Service

/-- A page that is shown a path settles exactly if the service, for a `GET` of that path, runs the
handler of the same name with the same parameters. It is blocked exactly if the service turns the
request away, for lack of a credential or of a level, and fails exactly if the service does not know
the path or not for `GET`. The page may hold the session that the service finds, or have forgotten
it once it has ended. -/
theorem gates_agree {α ω : Type} (tell : Event → Engine ω → Engine ω) (e : Engine ω) (i : Intent)
    (d : Dispatcher α)
    (ctx : Context) (r : Request) (w : World α) (c : Option Session) (j : Journal)
    (hviews : e.views = d.table)
    (hguard : e.guard = Access.guard) (haccepts : ∀ n k, e.refuses n k = false)
    (hnow : e.now = d.clock.getD w.now)
    (hclick : i.trigger = .userClick) (hget : r.method = "GET") (hpath : r.path = i.path)
    (hregistered : ∀ entry params, d.table.lookup "GET" r.path = .matched entry params →
      d.handlers.get? entry.handlerId ≠ none)
    (hresolve : d.credentials.resolve w.store r w.journal = (.ok c, j))
    (hread : e.credential.1 = .ok c ∨ e.credential.1 = .ok (live? c e.now)) :
    ∃ ev e₁, e.process tell i = (.ok ev, { Engine.closing ev (tell ev e₁) with phase := .idle }) ∧
      (∀ id params, ev = .settled i id params ↔
        ∃ session, d.invocations ctx r w = [⟨id, params, session⟩]) ∧
      ((∃ path, ev = .blocked i .unauthenticated path) ↔ d.TurnsAway ctx r w .unauthorized) ∧
      ((∃ path, ev = .blocked i .insufficientLevel path) ↔ d.TurnsAway ctx r w .forbidden) ∧
      ((∃ f, ev = .failed i f) ↔
        d.TurnsAway ctx r w .notFound ∨
          ∃ allowed, d.TurnsAway ctx r w (.methodNotAllowed allowed)) := by
  have hsame : ruling e.views c e.now i.path = ruling d.table c (d.clock.getD w.now) r.path := by
    rw [hviews, hnow, hpath]
  have hcredential : ∃ c', e.credential.1 = .ok c' ∧
      ruling e.views c' e.now i.path = ruling d.table c (d.clock.getD w.now) r.path := by
    rcases hread with hread | hread
    · exact ⟨c, hread, hsame⟩
    · exact ⟨live? c e.now, hread, (ruling_live? e.views c e.now i.path).trans hsame⟩
  obtain ⟨c', hread', hruling⟩ := hcredential
  obtain ⟨ev, e₁, hprocess, rfl⟩ :=
    Engine.process_eq_eventOf tell hguard hread' (by rw [hclick]; rfl) (haccepts _ _)
  have hanswers : Answers d ctx r w (ruling e.views c' e.now i.path) := by
    rw [hruling]
    exact answers_ruling ctx hget hresolve hregistered
  refine ⟨_, e₁, hprocess, fun id params => ?_, ?_, ?_, ?_⟩
  · rw [eventOf_eq_settled, hanswers.eq_iff]
    exact ⟨fun (.admitted session h) => ⟨session, h⟩, fun ⟨session, h⟩ => .admitted session h⟩
  · rw [eventOf_eq_unauthenticated, hanswers.eq_iff]
    exact ⟨fun (.unauthenticated h) => h, .unauthenticated⟩
  · rw [eventOf_eq_insufficientLevel, hanswers.eq_iff]
    exact ⟨fun (.insufficientLevel h) => h, .insufficientLevel⟩
  · rw [eventOf_eq_failed, hanswers.eq_iff]
    constructor
    · rintro (h | h | h | h | h)
      · exact Or.inl h
      · exact Or.inr ⟨_, h⟩
    · rintro (h | ⟨allowed, h⟩)
      · exact .notFound h
      · exact .methodNotAllowed h

/-- A page of the account service that has taken over a session from a cookie which outlives it. -/
def accountPage : Engine Unit where
  views := accountService.table
  history := .start "/"
  source := .wallet
  wallet :=
    { jar := ⟨[("SESSION_ID", ⟨"t", none⟩)]⟩
      session := some ⟨"t", .elevated, 604800000000, "ann"⟩
      wireToken := some "t" }
  now := 604800000000
  own := ()

theorem gates_agree_accountPage :
    ∃ path e', accountPage.process (fun _ e => e)
      { path := "/account/ann", trigger := .userClick } =
      (.ok (.blocked { path := "/account/ann", trigger := .userClick } .unauthenticated path),
        e') := by
  have hread : accountPage.credential.1 =
      .ok (live? (some ⟨"t", .elevated, 604800000000, "ann"⟩) accountPage.now) := rfl
  obtain ⟨ev, e₁, hprocess, -, hblocked, -, -⟩ := gates_agree (fun _ e => e) accountPage
    { path := "/account/ann", trigger := .userClick } accountService .outside accountRequest
    (Action.performAll newWorld [.issue "ann" .elevated none, .advance 604800000000])
    (some ⟨"t", .elevated, 604800000000, "ann"⟩) _ rfl rfl (fun _ _ => rfl) rfl rfl rfl rfl
    (fun entry params hmatch => by cases hmatch; decide) rfl (Or.inr hread)
  obtain ⟨path, rfl⟩ := hblocked.mpr ⟨rfl, rfl⟩
  exact ⟨path, _, hprocess⟩

end

end Waypost
