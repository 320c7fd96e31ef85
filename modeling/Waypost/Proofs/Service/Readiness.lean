import Waypost.Proofs.Route.Order
import Waypost.Proofs.Route.Reversal
import Waypost.Proofs.Service.Invocation
import Waypost.Proofs.Service.Setup
import Waypost.Service.Lifespan

/-!
# A frozen application has its handlers

Routes and handlers are registered apart from one another, and in any order. Only when the
application is frozen does somebody look whether the two agree. From then on neither changes, so
that a request that gets as far as its handler finds one.

* `LifeCall` : the calls, and what a server tells an application; all of it comes down to calls
  (`perform_eq`), and a request to freezing (`perform_request`);
* `isEmpty_missingHandlers_iff` : no handler is missing if every entry of the table has one;
* `Ready` : the table is an index of its entries and, once frozen, the application has their
  handlers; `perform_ready`, `performAll_ready` : this holds along every run;
* `frozen_app_has_handlers` : whichever way an application is frozen, what its table matches has a
  handler for good.
-/

namespace Waypost.Service

open Access

variable {α : Type}

/-! ## What happens to an application -/

/-- What happens to an application: a call, or that a server goes through its life with it, or that
it is started. -/
inductive LifeCall (α : Type) where
  | call (c : AppCall α)
  | lifespan (atEnd : Fault) (messages : List String)
  | start

namespace LifeCall

/-- What becomes of an application, in a world. -/
def perform (a : App α) (step : LifeCall α × World α) : App α :=
  match step.1 with
  | .call c => AppCall.perform a (c, step.2)
  | .lifespan atEnd messages => (a.lifespan atEnd messages step.2).1
  | .start => (a.start step.2).2.1

/-- What becomes of an application step by step, each in a world of its own. -/
def performAll (a : App α) (steps : List (LifeCall α × World α)) : App α :=
  steps.foldl perform a

/-- The call that does the same to the application. -/
def asCall : LifeCall α → AppCall α
  | .call c => c
  | .lifespan .. | .start => .freeze

/-- A server does nothing to an application but freeze it. -/
theorem perform_eq (a : App α) (c : LifeCall α) (w : World α) :
    perform a (c, w) = AppCall.perform a (c.asCall, w) := by
  cases c with
  | call c => rfl
  | lifespan atEnd messages =>
    change (a.lifespan atEnd messages w).1 = (settled a w (a.freeze w.journal)).2.app
    unfold App.lifespan
    rcases a.freeze w.journal with ⟨f | a', j⟩
    · rfl
    · rfl
  | start =>
    change (a.start w).2.1 = (settled a w (a.freeze w.journal)).2.app
    unfold App.start
    rcases a.freeze w.journal with ⟨f | a', j⟩
    · rfl
    · rfl

/-- So does a request, if its scope is of any kind. -/
theorem perform_request (a : App α) {scope : Scope} (hkind : scope.kind ≠ none) (w : World α) :
    perform a (.call (.request scope), w) = perform a (.call .freeze, w) := by
  change (a.serve scope w).2.1 = (settled a w (a.freeze w.journal)).2.app
  obtain ⟨kind, hsome⟩ := Option.ne_none_iff_exists'.mp hkind
  unfold App.serve
  rw [hsome]
  dsimp only
  rcases a.freeze w.journal with ⟨f | a', j⟩
  · rfl
  · dsimp only
    split_ifs <;> rfl

theorem performAll_of_frozen {a : App α} (hfrozen : a.frozen = true)
    (steps : List (LifeCall α × World α)) :
    performAll a steps = a := by
  induction steps with
  | nil => rfl
  | cons step steps ih =>
    obtain ⟨c, w⟩ := step
    rw [performAll, List.foldl_cons, perform_eq, AppCall.perform_of_frozen hfrozen]
    exact ih

end LifeCall

/-! ## The table and the registry -/

/-- Every entry of the table has a handler. -/
def App.Staffed (a : App α) : Prop :=
  ∀ e ∈ a.table.entries, a.handlers.contains e.handlerId = true

theorem isEmpty_missingHandlers_iff {a : App α} : a.missingHandlers.isEmpty = true ↔ a.Staffed := by
  unfold App.missingHandlers Registry.missing App.Staffed
  rw [List.isEmpty_iff, List.filter_eq_nil_iff]
  constructor
  · intro h e he
    simpa using h e.handlerId (Route.mem_sortedSet.mpr (List.mem_map_of_mem he))
  · intro h id hid
    obtain ⟨e, he, rfl⟩ := List.mem_map.mp (Route.mem_sortedSet.mp hid)
    simp [h e he]

theorem registered_of_registerNoting {t t' : Route.Table} (ht : Route.Registered t)
    {es : List Route.Entry} (hes : ∀ e ∈ es, e.pattern.IsParsed) {j j' : Journal}
    (h : t.registerNoting es j = (.ok t', j')) :
    Route.Registered t' := by
  have hattempt := ht.attempt hes
  unfold Route.Table.registerNoting at h
  unfold Route.Table.attempt at hattempt
  cases hall : t.registerAll es with
  | error err =>
    rw [hall] at h
    cases h
  | ok table =>
    rw [hall] at h hattempt
    cases h
    exact hattempt

theorem RouteSpec.isParsed_entries {s : RouteSpec} {p : Route.Pattern}
    (hparse : Route.Pattern.parse s.path = .ok p) (id : String) :
    ∀ e ∈ s.entries id p, e.pattern.IsParsed := by
  intro e he
  obtain ⟨m, -, rfl⟩ := List.mem_map.mp he
  exact ⟨s.path, hparse⟩

theorem isParsed_of_parseEntry {method path handlerId : String} {level : Level}
    {label : Option String} {e : Route.Entry}
    (h : Route.Table.parseEntry method path handlerId level label = .ok e) :
    e.pattern.IsParsed := by
  unfold Route.Table.parseEntry at h
  split at h
  · cases h
  · rename_i p hparse
    cases h
    exact ⟨path, hparse⟩

/-- A call that changes the table registers entries in it. -/
theorem SetupCall.registered_of_apply {c : SetupCall α} {a a' : App α}
    (ha : Route.Registered a.table) {j : Journal} (h : (c.apply a j).1 = .ok a') :
    Route.Registered a'.table := by
  cases c with
  | route spec name handler =>
    unfold apply App.route at h
    dsimp only at h
    split_ifs at h
    split at h
    · cases h
    · rename_i p hparse
      rcases hnoting : a.table.registerNoting
        (spec.entries ((nonEmpty? spec.handlerId).getD name) p) j with ⟨err | table, j'⟩
      · rw [hnoting] at h
        cases h
      · rw [hnoting] at h
        dsimp only at h
        split at h
        · cases h
        · cases h
          exact registered_of_registerNoting ha (RouteSpec.isParsed_entries hparse _) hnoting
  | handler id handler =>
    obtain ⟨-, hchange⟩ := App.whenOpen_eq_ok h
    split at hchange
    · cases hchange
    · cases hchange
      exact ha
  | addRoute method path handlerId level label =>
    unfold apply App.addRoute at h
    dsimp only at h
    split_ifs at h
    · cases h
    · split at h
      · cases h
      · rename_i e hparse
        rcases hnoting : a.table.registerNoting [e] j with ⟨err | table, j'⟩
        · rw [hnoting] at h
          cases h
        · rw [hnoting] at h
          cases h
          exact registered_of_registerNoting ha
            (List.forall_mem_singleton.mpr (isParsed_of_parseEntry hparse)) hnoting
  | _ =>
    obtain ⟨-, hchange⟩ := App.whenOpen_eq_ok h
    cases hchange
    exact ha

/-! ## Runs -/

/-- The table is an index of its entries. Once the application is frozen, they have their
handlers. -/
structure App.Ready (a : App α) : Prop where
  registered : Route.Registered a.table
  staffed : a.frozen = true → a.Staffed

namespace AppCall

theorem freeze_ready {a : App α} (h : a.Ready) (w : World α) :
    (freeze.outcome a w).2.app.Ready := by
  unfold outcome App.freeze
  by_cases hfrozen : a.frozen
  · rw [if_pos hfrozen]
    exact h
  · rw [if_neg hfrozen]
    by_cases hnone : a.missingHandlers.isEmpty = true
    · rw [if_pos hnone]
      exact ⟨h.registered.perform (c := .freeze) trivial, fun _ =>
        isEmpty_missingHandlers_iff.mp hnone⟩
    · rw [if_neg hnone]
      exact h

theorem perform_ready {a : App α} (h : a.Ready) (step : AppCall α × World α) :
    (perform a step).Ready := by
  obtain ⟨c, w⟩ := step
  cases c with
  | setup c =>
    rcases hx : c.apply a w.journal with ⟨f | a', j⟩
    · rw [perform, outcome, hx]
      exact h
    · rw [perform, outcome, hx]
      have happly : (c.apply a w.journal).1 = .ok a' := congrArg Prod.fst hx
      refine ⟨SetupCall.registered_of_apply h.registered happly, fun hfrozen => ?_⟩
      -- A frozen application would have turned the call down.
      have hbefore : a.frozen = true := (SetupCall.frozen_of_apply happly).1.symm.trans hfrozen
      rw [c.apply_of_frozen hbefore] at happly
      cases happly
  | freeze => exact freeze_ready h w
  | request scope =>
    rw [perform]
    rcases app_request a scope w with hsame | hsame
    · rw [hsame]
      exact h
    · rw [hsame]
      exact freeze_ready h w

end AppCall

theorem LifeCall.performAll_ready {a : App α} (h : a.Ready) (steps : List (LifeCall α × World α)) :
    (performAll a steps).Ready :=
  List.foldlRecOn steps perform h fun a ha step _ => by
    obtain ⟨c, w⟩ := step
    rw [perform_eq]
    exact AppCall.perform_ready ha (c.asCall, w)

theorem App.ready_of_create {config : Config} {n : Nat} {a : App α}
    (h : App.create config = .ok (a, n)) : a.Ready := by
  unfold App.create at h
  split at h
  · cases h
  · cases h
    exact ⟨Route.registered_empty, nofun⟩

theorem AppCall.Reached.ready {a : App α} (h : Reached a) : a.Ready := by
  obtain ⟨config, n, a₀, steps, hcreate, rfl⟩ := h
  exact List.foldlRecOn steps perform (App.ready_of_create hcreate) fun _ ha step _ =>
    perform_ready ha step

/-! ## Handlers -/

/-- What the table of a frozen application matches has a handler. -/
theorem App.Ready.exists_handler {a : App α} (h : a.Ready) (hfrozen : a.frozen = true)
    {method path : String} {e : Route.Entry} {params : Params}
    (hmatch : a.table.lookup method path = .matched e params) :
    ∃ handler, a.handlers.get? e.handlerId = some handler := by
  rw [h.registered.toIndexed.lookup_eq] at hmatch
  exact Option.isSome_iff_exists.mp (h.staffed hfrozen e (Route.mem_of_precedence hmatch).1)

namespace LifeCall

/-- An application that has been set up by any calls may be frozen by a call of its own, by a server
at its start, or by a request, all of which come to the same. From then on, whatever is done with
it, what its table matches has a handler, and a request that the guard lets through runs it: nobody
finds that there is none. -/
theorem frozen_app_has_handlers {config : Config} {n : Nat} {a₀ : App α}
    (hcreate : App.create config = .ok (a₀, n)) (before : List (LifeCall α × World α)) {w : World α}
    {a : App α} (hfreeze : ((performAll a₀ before).freeze w.journal).1 = .ok a) :
    (perform (performAll a₀ before) (.call .freeze, w) = a ∧
      perform (performAll a₀ before) (.start, w) = a ∧
        (∀ atEnd messages, perform (performAll a₀ before) (.lifespan atEnd messages, w) = a) ∧
        ∀ scope, scope.kind ≠ none →
          perform (performAll a₀ before) (.call (.request scope), w) = a) ∧
      ∀ later, (performAll a later).frozen = true ∧
        (∀ method path e params, (performAll a later).table.lookup method path = .matched e params →
          ∃ handler, (performAll a later).handlers.get? e.handlerId = some handler) ∧
        ∀ r w' e params c j, (performAll a later).dispatcher.Admits r w' e params c j →
          ∃ handler, (performAll a later).handlers.get? e.handlerId = some handler ∧
            ∀ ctx, (performAll a later).dispatcher.dispatch ctx r w' =
              responded (handler params (r.withPathParams params) { ctx with session := c }
                (w'.withJournal j)) := by
  have hready : (performAll a₀ before).Ready :=
    performAll_ready (App.ready_of_create hcreate) before
  generalize performAll a₀ before = b at hfreeze hready
  have hcall : perform b (.call .freeze, w) = a := by
    change (settled b w (b.freeze w.journal)).2.app = a
    rcases hx : b.freeze w.journal with ⟨f | b', j⟩
    · rw [hx] at hfreeze
      cases hfreeze
    · rw [hx] at hfreeze
      cases hfreeze
      rfl
  have hfrozen : a.frozen = true := by
    unfold App.freeze at hfreeze
    split_ifs at hfreeze with hbefore
    · cases hfreeze
      exact hbefore
    · cases hfreeze
      rfl
  have hafter : a.Ready := hcall ▸ AppCall.freeze_ready hready w
  refine ⟨⟨hcall, ?_, ?_, ?_⟩, fun later => ?_⟩
  · rw [perform_eq]
    exact hcall
  · intro atEnd messages
    rw [perform_eq]
    exact hcall
  · intro scope hkind
    rw [perform_request b hkind]
    exact hcall
  · rw [performAll_of_frozen hfrozen]
    refine ⟨hfrozen, fun method path e params hmatch => hafter.exists_handler hfrozen hmatch, ?_⟩
    intro r w' e params c j hadmits
    obtain ⟨handler, hhandler⟩ := hafter.exists_handler hfrozen hadmits.matched
    refine ⟨handler, hhandler, fun ctx => ?_⟩
    rw [Dispatcher.dispatch_of_matched hadmits.matched]
    exact Dispatcher.serve_of_allowed hadmits.presents hadmits.allowed hhandler

/-- A route is registered, a server starts the application too early, and its handler is
registered. -/
def itemSetup : List (LifeCall Nat × World Nat) :=
  [(.call (.setup (.addRoute "GET" "/items/:id" "items.show" .anonymous none)), newWorld),
    (.start, newWorld), (.call (.setup (.handler "items.show" countRun)), newWorld)]

/-- Routes and handlers that come too late. -/
def lateSetup : List (LifeCall Nat × World Nat) :=
  [(.call (.setup (.addRoute "GET" "/tea" "tea.show" .anonymous none)), newWorld),
    (.call (.setup (.handler "items.show" countRun)), newWorld)]

theorem frozen_app_has_handlers_item :
    ∃ a : App Nat, ((performAll {} itemSetup).freeze {}).1 = .ok a ∧
      ∃ e params, (performAll a lateSetup).table.lookup "GET" "/items/7" = .matched e params ∧
        ∃ handler, (performAll a lateSetup).handlers.get? e.handlerId = some handler := by
  have hfreeze : ((performAll {} itemSetup).freeze newWorld.journal).1 = .ok _ := rfl
  have hcreate : App.create {} = .ok (({} : App Nat), _) := rfl
  obtain ⟨-, hlater⟩ := frozen_app_has_handlers hcreate itemSetup hfreeze
  obtain ⟨-, hmatched, -⟩ := hlater lateSetup
  exact ⟨_, hfreeze, _, _, rfl, hmatched "GET" "/items/7" _ _ rfl⟩

end LifeCall

end Waypost.Service
