import Waypost.Proofs.Route.Batch
import Waypost.Proofs.Service.Admission
import Waypost.Service.App

/-!
# Putting an application together

Routes, handlers, error handlers, middleware and hooks are registered with one application, which is
then frozen. The calls work on the application itself, so what a call has changed by the time it
fails stays changed. There is nothing of that kind.

* `Site` : an application and the world that it stands in; `Work` : what is done there step by step;
* `SetupCall`, `AppCall` : the calls, and `work` : how they go on in one application;
* `runAt_work` : a call does to the application what the application makes of it, and leaves it as
  it was if that is a fault;
* `app_request`, `perform_of_frozen` : what a request does, and what is done to a frozen
  application;
* `Reached` : the applications that runs of calls lead to; `Reached.same` : they are frozen together
  with their tables.
-/

namespace Waypost.Service

open Access

variable {α β : Type}

/-- An application and the world that it stands in. -/
structure Site (α : Type) where
  app : App α
  world : World α

/-- What is done to an application step by step. What has been changed by the time it ends stays
changed, also if it ends with a fault. -/
abbrev Work (α β : Type) := ExceptT Fault (StateM (Site α)) β

/-- The end of a call that has changed the application whole or not at all. -/
def settled (a : App α) (w : World α) : Except Fault (App α) × Journal → Except Fault Unit × Site α
  | (.error f, j) => (.error f, ⟨a, w.withJournal j⟩)
  | (.ok a', j) => (.ok (), ⟨a', w.withJournal j⟩)

namespace Work

/-- What comes of work at a site. -/
def runAt (x : Work α β) (s : Site α) : Except Fault β × Site α :=
  x.run.run s

/-- Changes the application. -/
def change (f : App α → App α) : Work α Unit :=
  modify fun s => { s with app := f s.app }

/-- Writes into the journal. -/
def note (f : Journal → Journal) : Work α Unit :=
  modify fun s => { s with world := s.world.withJournal (f s.world.journal) }

/-- Ends with a fault if the application is frozen. -/
def checkOpen : Work α Unit := do
  if (← get).app.frozen then throw (.setup .alreadyServing)

/-- Registers entries in the table of the application. -/
def enroll (es : List Route.Entry) : Work α Unit := do
  (fun s =>
    match (Route.enroll es).run.run s.app.table with
    | (.error err, table) => (.error (.register err), { s with app := { s.app with table } })
    | (.ok (), table) => (.ok (), { s with app := { s.app with table } }))
  note fun j => j.logAll (es.map Route.Entry.registered)

/-- Puts a handler into the registry of the application. -/
def register (id : String) (h : Handler α) : Work α Unit := do
  if (← get).app.handlers.contains id then throw (.setup (.handlerTaken id))
  change fun a => { a with handlers := ⟨a.handlers.handlers ++ [(id, h)]⟩ }

/-- Registers a handler together with its route, the route first. -/
def route (spec : RouteSpec) (name : String) (h : Handler α) : Work α Unit := do
  checkOpen
  let id := (nonEmpty? spec.handlerId).getD name
  if (← get).app.handlers.contains id then throw (.setup (.handlerTaken id))
  match Route.Pattern.parse spec.path with
  | .error flaw => throw (.register (.invalid spec.path flaw))
  | .ok p =>
    enroll (spec.entries id p)
    register id h

/-- Registers a handler without a route. -/
def handler (id : String) (h : Handler α) : Work α Unit := do
  checkOpen
  register id h

/-- Registers a route whose handler is registered elsewhere. -/
def addRoute (method path handlerId : String) (level : Level) (label : Option String) :
    Work α Unit := do
  checkOpen
  match Route.Table.parseEntry method path handlerId level label with
  | .error err => throw (.register err)
  | .ok e => enroll [e]

/-- Changes an application that is not frozen. -/
def amend (f : App α → App α) : Work α Unit := do
  checkOpen
  change f

/-- Freezes the application and its table, if every route has its handler. -/
def freeze : Work α Unit := do
  let a := (← get).app
  if a.frozen then return
  if !a.missingHandlers.isEmpty then throw (.setup (.handlersMissing a.missingHandlers))
  change fun a => { a with table := a.table.freeze }
  change fun a => { a with frozen := true }
  note fun j => j.log a.frozenRecord

/-- Serves a scope. -/
def serve (scope : Scope) : Work α (List Frame) := do
  match scope.kind with
  | none => throw (.missing "type")
  | some kind =>
    freeze
    if kind = "http" then
      fun s =>
        let (result, world) := s.app.exchange scope s.world
        (result, { s with world })
    else return []

/-! ## What comes of it -/

/-- What comes after a step begins at the site that the step leaves, unless the step ends with a
fault. -/
theorem runAt_bind {γ : Type} (x : Work α β) (f : β → Work α γ) (s : Site α) :
    (x >>= f).runAt s =
      match x.runAt s with
      | (.error g, s') => (.error g, s')
      | (.ok b, s') => (f b).runAt s' := by
  simp only [runAt, ExceptT.run_bind, StateT.run_bind]
  rcases x.run.run s with ⟨g | b, s'⟩
  · rfl
  · rfl

theorem runAt_get_bind (f : Site α → Work α β) (s : Site α) :
    (get >>= f).runAt s = (f s).runAt s := rfl

theorem runAt_checkOpen_bind (x : Work α β) (a : App α) (w : World α) :
    (checkOpen >>= fun _ => x).runAt ⟨a, w⟩ =
      if a.frozen then (.error (.setup .alreadyServing), ⟨a, w⟩) else x.runAt ⟨a, w⟩ := by
  unfold checkOpen
  rw [bind_assoc, runAt_get_bind]
  split_ifs <;> rfl

/-- Entries are registered all or none. -/
theorem runAt_enroll (es : List Route.Entry) (a : App α) (w : World α) :
    (enroll es).runAt ⟨a, w⟩ =
      match a.table.registerNoting es w.journal with
      | (.error err, j) => (.error (.register err), ⟨a, w.withJournal j⟩)
      | (.ok table, j) => (.ok (), ⟨{ a with table }, w.withJournal j⟩) := by
  have hrun := Route.run_enroll a.table es
  unfold enroll Route.Table.registerNoting
  rw [runAt_bind]
  unfold runAt ExceptT.run StateT.run at *
  dsimp only
  rw [hrun]
  cases a.table.registerAll es with
  | error err => rfl
  | ok table => rfl

theorem runAt_register (id : String) (h : Handler α) (a : App α) (w : World α) :
    (register id h).runAt ⟨a, w⟩ =
      match a.handlers.register id h with
      | .error err => (.error (.setup err), ⟨a, w⟩)
      | .ok handlers => (.ok (), ⟨{ a with handlers }, w⟩) := by
  unfold register Registry.register
  rw [runAt_get_bind]
  split_ifs <;> rfl

/-- A handler that goes with a route is registered with it or not at all: once the route is in the
table, nothing stands in the way of the handler. -/
theorem runAt_route (spec : RouteSpec) (name : String) (h : Handler α) (a : App α) (w : World α) :
    (route spec name h).runAt ⟨a, w⟩ = settled a w (a.route spec name h w.journal) := by
  unfold route App.route
  rw [runAt_checkOpen_bind]
  by_cases hfrozen : a.frozen
  · rw [if_pos hfrozen, if_pos hfrozen]
    rfl
  · rw [if_neg hfrozen, if_neg hfrozen]
    dsimp only
    generalize (nonEmpty? spec.handlerId).getD name = id
    rw [runAt_get_bind]
    by_cases htaken : a.handlers.contains id
    · rw [if_pos htaken, if_pos htaken]
      rfl
    · -- The table is changed before the registry, which must then not refuse.
      have hfree : a.handlers.register id h = .ok ⟨a.handlers.handlers ++ [(id, h)]⟩ := by
        rw [Registry.register, if_neg htaken]
      rw [if_neg htaken, if_neg htaken]
      cases Route.Pattern.parse spec.path with
      | error flaw => rfl
      | ok p =>
        dsimp only
        rw [runAt_bind, runAt_enroll, hfree]
        rcases a.table.registerNoting (spec.entries id p) w.journal with ⟨err | table, j⟩
        · rfl
        · dsimp only
          rw [runAt_register, hfree]
          rfl

theorem runAt_handler (id : String) (h : Handler α) (a : App α) (w : World α) :
    (handler id h).runAt ⟨a, w⟩ = settled a w (a.handler id h, w.journal) := by
  unfold handler App.handler App.whenOpen
  rw [runAt_checkOpen_bind, runAt_register]
  split_ifs
  · rfl
  · cases a.handlers.register id h with
    | error err => rfl
    | ok handlers => rfl

theorem runAt_addRoute (method path handlerId : String) (level : Level) (label : Option String)
    (a : App α) (w : World α) :
    (addRoute method path handlerId level label).runAt ⟨a, w⟩ =
      settled a w (((a.addRoute method path handlerId level label w.journal).1.map Prod.snd),
        (a.addRoute method path handlerId level label w.journal).2) := by
  unfold addRoute App.addRoute
  rw [runAt_checkOpen_bind]
  split_ifs
  · rfl
  · cases Route.Table.parseEntry method path handlerId level label with
    | error err => rfl
    | ok e =>
      dsimp only
      rw [runAt_enroll]
      rcases a.table.registerNoting [e] w.journal with ⟨err | table, j⟩
      · rfl
      · rfl

theorem runAt_amend (f : App α → App α) (a : App α) (w : World α) :
    (amend f).runAt ⟨a, w⟩ = settled a w (a.whenOpen (.ok (f a)), w.journal) := by
  unfold amend App.whenOpen
  rw [runAt_checkOpen_bind]
  split_ifs <;> rfl

theorem runAt_freeze (a : App α) (w : World α) :
    freeze.runAt ⟨a, w⟩ = settled a w (a.freeze w.journal) := by
  unfold freeze App.freeze
  rw [runAt_get_bind]
  dsimp only
  by_cases hfrozen : a.frozen
  · rw [if_pos hfrozen, if_pos hfrozen]
    rfl
  · rw [if_neg hfrozen, if_neg hfrozen]
    cases a.missingHandlers.isEmpty with
    | true => rfl
    | false => rfl

theorem runAt_serve (scope : Scope) (a : App α) (w : World α) :
    (serve scope).runAt ⟨a, w⟩ =
      ((a.serve scope w).1, ⟨(a.serve scope w).2.1, (a.serve scope w).2.2⟩) := by
  unfold serve App.serve
  cases scope.kind with
  | none => rfl
  | some kind =>
    dsimp only
    rw [runAt_bind, runAt_freeze]
    rcases a.freeze w.journal with ⟨f | a', j⟩
    · rfl
    · dsimp only [settled]
      split_ifs <;> rfl

end Work

/-! ## Calls -/

theorem App.whenOpen_eq_ok {a a' : App α} {change : Except Fault (App α)}
    (h : a.whenOpen change = .ok a') :
    a.frozen = false ∧ change = .ok a' := by
  unfold whenOpen at h
  split_ifs at h with hfrozen
  exact ⟨Bool.eq_false_iff.mpr hfrozen, h⟩

theorem frozen_of_registerNoting {t t' : Route.Table} {es : List Route.Entry} {j j' : Journal}
    (h : t.registerNoting es j = (.ok t', j')) : t'.frozen = t.frozen := by
  unfold Route.Table.registerNoting Route.Table.registerAll at h
  split_ifs at h
  · cases h
  · cases hcheck : t.checkAll [] es with
    | error err =>
      rw [hcheck] at h
      cases h
    | ok u =>
      rw [hcheck] at h
      cases h
      exact (Route.entries_insertAll es t).2

/-- A call that is there to change an application. -/
inductive SetupCall (α : Type) where
  | route (spec : RouteSpec) (name : String) (h : Handler α)
  | handler (id : String) (h : Handler α)
  | addRoute (method path handlerId : String) (level : Level) (label : Option String)
  | onError (key : ErrorKey) (h : ErrorHandler α)
  | addMiddleware (m : Middleware α)
  | onStart (hook : Act α Unit)
  | onStop (hook : Act α Unit)

namespace SetupCall

/-- A call as it goes on in one application. -/
def work : SetupCall α → Work α Unit
  | .route spec name h => Work.route spec name h
  | .handler id h => Work.handler id h
  | .addRoute method path handlerId level label => Work.addRoute method path handlerId level label
  | .onError key h => Work.amend fun a => { a with rules := Keyed.put key h a.rules }
  | .addMiddleware m => Work.amend fun a => { a with middleware := a.middleware ++ [m] }
  | .onStart hook => Work.amend fun a => { a with startHooks := a.startHooks ++ [hook] }
  | .onStop hook => Work.amend fun a => { a with stopHooks := a.stopHooks ++ [hook] }

/-- What an application makes of a call. -/
def apply (a : App α) (j : Journal) : SetupCall α → Except Fault (App α) × Journal
  | .route spec name h => a.route spec name h j
  | .handler id h => (a.handler id h, j)
  | .addRoute method path handlerId level label =>
    let (result, j) := a.addRoute method path handlerId level label j
    (result.map Prod.snd, j)
  | .onError key h => (a.onError key h, j)
  | .addMiddleware m => (a.addMiddleware m, j)
  | .onStart hook => (a.onStart hook, j)
  | .onStop hook => (a.onStop hook, j)

/-- A call does to the application what the application makes of it, and leaves it as it was if that
is a fault. -/
theorem runAt_work (c : SetupCall α) (a : App α) (w : World α) :
    c.work.runAt ⟨a, w⟩ = settled a w (c.apply a w.journal) := by
  cases c with
  | route spec name h => exact Work.runAt_route spec name h a w
  | handler id h => exact Work.runAt_handler id h a w
  | addRoute method path handlerId level label =>
    exact Work.runAt_addRoute method path handlerId level label a w
  | _ => exact Work.runAt_amend _ a w

/-- A frozen application turns every call down. -/
theorem apply_of_frozen (c : SetupCall α) {a : App α} (hfrozen : a.frozen = true) (j : Journal) :
    c.apply a j = (.error (.setup .alreadyServing), j) := by
  cases c <;>
    simp [apply, App.route, App.handler, App.addRoute, App.onError, App.addMiddleware,
      App.onStart, App.onStop, App.whenOpen, Except.map, hfrozen]

/-- No call but freezing changes whether the application and its table are frozen. -/
theorem frozen_of_apply {c : SetupCall α} {a a' : App α} {j : Journal}
    (h : (c.apply a j).1 = .ok a') :
    a'.frozen = a.frozen ∧ a'.table.frozen = a.table.frozen := by
  cases c with
  | route spec name handler =>
    unfold apply App.route at h
    dsimp only at h
    split_ifs at h
    split at h
    · cases h
    · rename_i p _
      rcases hnoting : a.table.registerNoting
        (spec.entries ((nonEmpty? spec.handlerId).getD name) p) j with ⟨err | table, j'⟩
      · rw [hnoting] at h
        cases h
      · rw [hnoting] at h
        dsimp only at h
        split at h
        · cases h
        · cases h
          exact ⟨rfl, frozen_of_registerNoting hnoting⟩
  | handler id handler =>
    obtain ⟨-, hchange⟩ := App.whenOpen_eq_ok h
    split at hchange
    · cases hchange
    · cases hchange
      exact ⟨rfl, rfl⟩
  | addRoute method path handlerId level label =>
    unfold apply App.addRoute at h
    dsimp only at h
    split_ifs at h
    · cases h
    · split at h
      · cases h
      · rename_i e _
        rcases hnoting : a.table.registerNoting [e] j with ⟨err | table, j'⟩
        · rw [hnoting] at h
          cases h
        · rw [hnoting] at h
          cases h
          exact ⟨rfl, frozen_of_registerNoting hnoting⟩
  | _ =>
    obtain ⟨-, hchange⟩ := App.whenOpen_eq_ok h
    cases hchange
    exact ⟨rfl, rfl⟩

end SetupCall

/-- What is done with an application. -/
inductive AppCall (α : Type) where
  | setup (c : SetupCall α)
  | freeze
  | request (scope : Scope)

namespace AppCall

/-- A call as it goes on in one application. -/
def work : AppCall α → Work α Unit
  | .setup c => c.work
  | .freeze => Work.freeze
  | .request scope => do
    let _ ← Work.serve scope

/-- What comes of a call in a world. -/
def outcome (a : App α) (w : World α) : AppCall α → Except Fault Unit × Site α
  | .setup c => settled a w (c.apply a w.journal)
  | .freeze => settled a w (a.freeze w.journal)
  | .request scope =>
    let (result, a, w) := a.serve scope w
    (result.map fun _ => (), ⟨a, w⟩)

theorem runAt_work (c : AppCall α) (a : App α) (w : World α) :
    c.work.runAt ⟨a, w⟩ = c.outcome a w := by
  cases c with
  | setup c => exact c.runAt_work a w
  | freeze => exact Work.runAt_freeze a w
  | request scope =>
    unfold work outcome
    rw [Work.runAt_bind, Work.runAt_serve]
    dsimp only
    rcases a.serve scope w with ⟨f | frames, a', w'⟩
    · rfl
    · rfl

/-- What a call in a world makes of an application. -/
def perform (a : App α) (step : AppCall α × World α) : App α :=
  (step.1.outcome a step.2).2.app

/-- What calls in order make of an application, each in a world of its own. -/
def performAll (a : App α) (steps : List (AppCall α × World α)) : App α :=
  steps.foldl perform a

/-- The applications that calls lead to, from a new one. -/
def Reached (a : App α) : Prop :=
  ∃ config n a₀ steps, App.create config = .ok (a₀, n) ∧ a = performAll a₀ steps

/-! ## One call -/

theorem settled_error {a : App α} {w : World α} {x : Except Fault (App α) × Journal} {f : Fault}
    {s : Site α} (h : settled a w x = (.error f, s)) : s.app = a := by
  rcases x with ⟨g | a', j⟩
  · cases h
    rfl
  · cases h

theorem freeze_of_frozen {a : App α} (hfrozen : a.frozen = true) (j : Journal) :
    a.freeze j = (.ok a, j) :=
  if_pos hfrozen

/-- Freezing changes nothing but that the application and its table are frozen. -/
theorem eq_of_freeze {a a' : App α} (hsame : a.table.frozen = a.frozen) {j : Journal}
    (h : (a.freeze j).1 = .ok a') :
    a' = { a with table := a.table.freeze, frozen := true } := by
  unfold App.freeze at h
  split_ifs at h with hfrozen
  · cases h
    have htable : a.table.freeze = a.table := by
      rw [Route.Table.freeze, ← hfrozen, ← hsame]
    rw [htable, ← hfrozen]
  · cases h
    rfl

theorem frozen_of_freeze_error {a : App α} {j : Journal} {f : Fault}
    (h : (a.freeze j).1 = .error f) : a.frozen = false := by
  unfold App.freeze at h
  split_ifs at h with hfrozen
  exact Bool.eq_false_iff.mpr hfrozen

/-- A request leaves the application as it was, or as freezing it does. -/
theorem app_request (a : App α) (scope : Scope) (w : World α) :
    ((request scope).outcome a w).2.app = a ∨
      ((request scope).outcome a w).2.app = (freeze.outcome a w).2.app := by
  change (a.serve scope w).2.1 = a ∨
    (a.serve scope w).2.1 = (settled a w (a.freeze w.journal)).2.app
  unfold App.serve
  cases scope.kind with
  | none => exact Or.inl rfl
  | some kind =>
    right
    dsimp only
    rcases a.freeze w.journal with ⟨f | a', j⟩
    · rfl
    · dsimp only
      split_ifs <;> rfl

/-- Nothing changes a frozen application. -/
theorem perform_of_frozen {a : App α} (hfrozen : a.frozen = true) (step : AppCall α × World α) :
    perform a step = a := by
  obtain ⟨c, w⟩ := step
  have hfreeze : (freeze.outcome a w).2.app = a := by
    rw [outcome, freeze_of_frozen hfrozen]
    rfl
  cases c with
  | setup c =>
    rw [perform, outcome, c.apply_of_frozen hfrozen]
    rfl
  | freeze => exact hfreeze
  | request scope =>
    rcases app_request a scope w with h | h
    · exact h
    · exact h.trans hfreeze

theorem performAll_of_frozen {a : App α} (hfrozen : a.frozen = true)
    (steps : List (AppCall α × World α)) :
    performAll a steps = a := by
  induction steps with
  | nil => rfl
  | cons step steps ih =>
    rw [performAll, List.foldl_cons, perform_of_frozen hfrozen]
    exact ih

/-! ## Runs -/

/-- The application and its table are frozen together. -/
theorem perform_same {a : App α} (hsame : a.table.frozen = a.frozen) (step : AppCall α × World α) :
    (perform a step).table.frozen = (perform a step).frozen := by
  obtain ⟨c, w⟩ := step
  have hfreeze : (freeze.outcome a w).2.app.table.frozen = (freeze.outcome a w).2.app.frozen := by
    rcases hx : a.freeze w.journal with ⟨f | a', j⟩
    · rw [outcome, hx]
      exact hsame
    · rw [outcome, hx, settled, eq_of_freeze hsame (congrArg Prod.fst hx)]
      rfl
  cases c with
  | setup c =>
    rcases hx : c.apply a w.journal with ⟨f | a', j⟩
    · rw [perform, outcome, hx]
      exact hsame
    · obtain ⟨happ, htable⟩ := SetupCall.frozen_of_apply (congrArg Prod.fst hx)
      rw [perform, outcome, hx, settled, htable, happ]
      exact hsame
  | freeze => exact hfreeze
  | request scope =>
    rw [perform]
    rcases app_request a scope w with h | h
    · rw [h]
      exact hsame
    · rw [h]
      exact hfreeze

theorem Reached.same {a : App α} (ha : Reached a) : a.table.frozen = a.frozen := by
  obtain ⟨config, n, a₀, steps, hcreate, rfl⟩ := ha
  have hnew : a₀.table.frozen = a₀.frozen := by
    unfold App.create at hcreate
    split at hcreate
    · cases hcreate
    · cases hcreate
      rfl
  exact List.foldlRecOn (motive := fun a => a.table.frozen = a.frozen) steps perform hnew
    fun _ h step _ =>
    perform_same h step

/-- In one application that calls and requests have led to, a call goes on as the application says.
A call that fails leaves the application as it was, and one that was to freeze it leaves neither the
application nor its table frozen. A request changes nothing but that it freezes the application
first, if that can be done. From the first time on that the application has been frozen, all calls
that are there to change it fail, and nothing ever changes it. -/
theorem setup_all_or_nothing {a : App α} (ha : Reached a) :
    (∀ (c : AppCall α) (w : World α), c.work.runAt ⟨a, w⟩ = c.outcome a w) ∧
      (∀ (c : SetupCall α) (w : World α) f s, (setup c).work.runAt ⟨a, w⟩ = (.error f, s) →
        s.app = a) ∧
      (∀ (w : World α) f s, freeze.work.runAt ⟨a, w⟩ = (.error f, s) →
        s.app = a ∧ a.frozen = false ∧ a.table.frozen = false) ∧
      (∀ scope (w : World α), ((request scope).work.runAt ⟨a, w⟩).2.app = a ∨
        ∃ s, freeze.work.runAt ⟨a, w⟩ = (.ok (), s) ∧
          ((request scope).work.runAt ⟨a, w⟩).2.app = s.app) ∧
      ∀ (w : World α) s, freeze.work.runAt ⟨a, w⟩ = (.ok (), s) →
        s.app = { a with table := a.table.freeze, frozen := true } ∧
          (∀ (c : SetupCall α) (w' : World α),
            ∃ f, (setup c).work.runAt ⟨s.app, w'⟩ = (.error f, ⟨s.app, w'⟩) ∧ f.kind = .runtime) ∧
          ∀ later, performAll s.app later = s.app := by
  refine ⟨fun c w => c.runAt_work a w, ?_, ?_, ?_, ?_⟩
  · intro c w f s h
    rw [runAt_work] at h
    exact settled_error h
  · intro w f s h
    rw [runAt_work] at h
    have hfrozen : a.frozen = false := by
      rcases hx : a.freeze w.journal with ⟨g | a', j⟩
      · exact frozen_of_freeze_error (congrArg Prod.fst hx)
      · rw [outcome, hx] at h
        cases h
    exact ⟨settled_error h, hfrozen, ha.same.trans hfrozen⟩
  · intro scope w
    rw [runAt_work, runAt_work]
    rcases app_request a scope w with h | h
    · exact Or.inl h
    · rcases hx : freeze.outcome a w with ⟨f | u, s⟩
      · rw [h, hx]
        exact Or.inl (settled_error hx)
      · rw [hx] at h
        exact Or.inr ⟨s, rfl, h⟩
  · intro w s h
    rw [runAt_work] at h
    rcases hx : a.freeze w.journal with ⟨g | a', j⟩
    · rw [outcome, hx] at h
      cases h
    · rw [outcome, hx] at h
      cases h
      have happ := eq_of_freeze ha.same (congrArg Prod.fst hx)
      have hfrozen : a'.frozen = true := by rw [happ]
      refine ⟨happ, fun c w' => ⟨.setup .alreadyServing, ?_, rfl⟩, performAll_of_frozen hfrozen⟩
      rw [runAt_work, outcome, c.apply_of_frozen hfrozen]
      rfl

/-- An application with a route whose handler is missing. -/
def orphanApp : App Nat :=
  performAll {}
    [(.setup (.addRoute "GET" "/items/:id" "items.show" .anonymous (some "item")), newWorld)]

/-- The same, with the handler. -/
def itemApp : App Nat :=
  performAll {} [(.setup (.addRoute "GET" "/items/:id" "items.show" .anonymous (some "item")),
    newWorld), (.freeze, newWorld), (.setup (.handler "items.show" countRun), newWorld)]

/-- A route for two methods, the second of which there is not. -/
def brewCall : SetupCall Nat :=
  .route { path := "/tea", methods := ["GET", "BREW"], label := some "tea" } "tea.brew" countRun

theorem setup_all_or_nothing_item :
    (∃ s, (setup brewCall).work.runAt ⟨orphanApp, newWorld⟩ =
        (.error (.register (.invalid "/tea" (.unknownMethod "BREW"))), s) ∧ s.app = orphanApp) ∧
      (∃ s, freeze.work.runAt ⟨orphanApp, newWorld⟩ =
        (.error (.setup (.handlersMissing ["items.show"])), s) ∧
        s.app = orphanApp ∧ orphanApp.frozen = false ∧ orphanApp.table.frozen = false) ∧
      ∃ s, freeze.work.runAt ⟨itemApp, newWorld⟩ = (.ok (), s) ∧ s.app.frozen = true ∧
        ∃ f, (setup brewCall).work.runAt ⟨s.app, newWorld⟩ = (.error f, ⟨s.app, newWorld⟩) ∧
          f.kind = .runtime := by
  have horphan : Reached orphanApp := ⟨{}, _, _, _, rfl, rfl⟩
  have hitem : Reached itemApp := ⟨{}, _, _, _, rfl, rfl⟩
  obtain ⟨-, hsetup, hfreeze, -, -⟩ := setup_all_or_nothing horphan
  obtain ⟨-, -, -, -, hserving⟩ := setup_all_or_nothing hitem
  have hlater := (hserving newWorld _ rfl).2.1
  exact ⟨⟨_, rfl, hsetup brewCall newWorld _ _ rfl⟩, ⟨_, rfl, hfreeze newWorld _ _ rfl⟩, _, rfl,
    rfl, hlater brewCall newWorld⟩

end AppCall

end Waypost.Service
