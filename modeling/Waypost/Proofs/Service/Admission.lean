import Waypost.Proofs.Access.Ledger
import Waypost.Proofs.Access.Offer
import Waypost.Proofs.Route.Registration
import Waypost.Service.Dispatcher

/-!
# Who is let in

Between requests, and while a handler runs, sessions are issued, revoked and purged, accounts log in
and out and time passes. A route above `anonymous` is served for the one who offers a live session
of a sufficient level, and for nobody else.

* `Action`, `deeds` : what can be done to the sessions of a world, and what the ledger says of it;
* `Run d w ledger` : the dispatcher `d` and such actions have led to the world `w`, and `ledger`
  lists the deeds;
* `Run.sound` : the store of the world agrees with the ledger;
* `responded` : the end of a request whose handler has run; `serve_of_allowed`, `serve_of_denied` :
  who gets there.
-/

namespace Waypost.Service

open Access Time

variable {α : Type}

/-- What can be done to the sessions of a world. The clock never goes back. -/
inductive Action where
  | issue (userId : String) (level : Level) (ttl : Option Duration)
  | revoke (token : String)
  | purge
  | login (account : Option Account) (password : String)
  | logout (token : Option String)
  | advance (micros : Nat)

namespace Action

/-- Carries out an action. -/
def perform (w : World α) : Action → World α
  | .issue userId level ttl => (w.issue userId level ttl).2
  | .revoke token => (w.revoke token).2
  | .purge => w.purge.2
  | .login account password =>
    let (_, store, journal) := Access.login account password w.store w.now w.journal
    { w with store, journal }
  | .logout token =>
    let (_, store, journal) := Access.logout token w.store w.journal
    { w with store, journal }
  | .advance micros => (w.advance micros).2

/-- The deeds of an action. -/
def deeds (w : World α) : Action → List Deed
  | .issue userId level ttl => issuedBy (w.issue userId level ttl).1.toOption
  | .revoke token => [.revoked token]
  | .purge => []
  | .login account password =>
    issuedBy ((Access.login account password w.store w.now w.journal).1.toOption.bind
      LoginOutcome.session?)
  | .logout token => revokedBy token
  | .advance _ => []

/-- Carries out actions in order. -/
def performAll : World α → List Action → World α
  | w, [] => w
  | w, a :: actions => performAll (a.perform w) actions

/-- The deeds of actions in order. -/
def deedsAll : World α → List Action → List Deed
  | _, [] => []
  | w, a :: actions => a.deeds w ++ deedsAll (a.perform w) actions

end Action

/-- The sessions and the clock of a world. -/
def World.vault (w : World α) : Store × Instant :=
  (w.store, w.now)

/-- The worlds that actions and requests lead to, from one without sessions, each with the deeds so
far. A handler may change what it likes, but sessions and the clock only by actions. -/
inductive Run (d : Dispatcher α) : World α → List Deed → Prop where
  | start {w : World α} (hempty : w.store.sessions = []) : Run d w []
  | act {w : World α} {ledger : List Deed} (hrun : Run d w ledger) (a : Action) :
      Run d (a.perform w) (ledger ++ a.deeds w)
  | dispatch {w : World α} {ledger : List Deed} (hrun : Run d w ledger) (ctx : Context)
      (r : Request) (actions : List Action)
      (hvault : (d.dispatch ctx r w).2.vault = (Action.performAll w actions).vault) :
      Run d (d.dispatch ctx r w).2 (ledger ++ Action.deedsAll w actions)

/-! ## The store of a run -/

theorem issue_spec (w : World α) (userId : String) (level : Level) (ttl : Option Duration) :
    (w.issue userId level ttl).1.toOption =
      (w.store.issue w.now userId level ttl w.journal).1.toOption ∧
      (w.issue userId level ttl).2.store = (w.store.issue w.now userId level ttl w.journal).2.1 ∧
      (w.issue userId level ttl).2.now = w.now := by
  unfold World.issue
  cases w.store.issue w.now userId level ttl w.journal with
  | mk result rest => cases result <;> exact ⟨rfl, rfl, rfl⟩

theorem now_le_advance (w : World α) (micros : Nat) : w.now ≤ (w.advance micros).2.now := by
  unfold World.advance
  split
  · exact Int.le_refl w.now
  · rename_i duration hduration
    split
    · exact Int.le_refl w.now
    · rename_i t ht
      have hmicros : duration = micros := by
        unfold Duration.ofMicros at hduration
        dsimp only at hduration
        split_ifs at hduration
        exact (Except.ok.inj hduration).symm
      unfold Instant.add at ht
      dsimp only at ht
      split_ifs at ht
      rw [← Except.ok.inj ht, hmicros]
      exact Int.le_add_of_nonneg_right (Int.natCast_nonneg micros)

theorem store_advance (w : World α) (micros : Nat) : (w.advance micros).2.store = w.store := by
  unfold World.advance
  split
  · rfl
  · split <;> rfl

/-- An action keeps the store in agreement with the ledger. -/
theorem Action.perform_sound {w : World α} {ledger : List Deed} (a : Action)
    (h : Sound w.store w.now ledger) (hdistinct : (issuedTokens (ledger ++ a.deeds w)).Nodup) :
    Sound (a.perform w).store (a.perform w).now (ledger ++ a.deeds w) := by
  cases a with
  | issue userId level ttl =>
    obtain ⟨hresult, hstore, hnow⟩ := issue_spec w userId level ttl
    rw [deeds, hresult] at hdistinct ⊢
    rw [perform, hstore, hnow]
    exact h.issue userId level ttl w.journal hdistinct
  | revoke token => exact h.revoke token w.journal
  | purge =>
    rw [deeds, List.append_nil]
    exact h.purge w.journal
  | login account password => exact h.login account password w.journal hdistinct
  | logout token => exact h.logout token w.journal
  | advance micros =>
    rw [deeds, List.append_nil, perform, store_advance]
    exact h.later (now_le_advance w micros)

theorem Action.performAll_sound (actions : List Action) {w : World α} {ledger : List Deed}
    (h : Sound w.store w.now ledger)
    (hdistinct : (issuedTokens (ledger ++ deedsAll w actions)).Nodup) :
    Sound (performAll w actions).store (performAll w actions).now
      (ledger ++ deedsAll w actions) := by
  induction actions generalizing w ledger with
  | nil =>
    rw [deedsAll, List.append_nil]
    exact h
  | cons a actions ih =>
    rw [deedsAll, ← List.append_assoc] at hdistinct ⊢
    exact ih (a.perform_sound h (nodup_issuedTokens_left hdistinct)) hdistinct

/-- The store agrees with the ledger of the run, if no token was issued twice. -/
theorem Run.sound {d : Dispatcher α} {w : World α} {ledger : List Deed} (hrun : Run d w ledger)
    (hdistinct : (issuedTokens ledger).Nodup) : Sound w.store w.now ledger := by
  induction hrun with
  | start hempty => exact sound_empty hempty _
  | act hrun a ih => exact a.perform_sound (ih (nodup_issuedTokens_left hdistinct)) hdistinct
  | dispatch hrun ctx r actions hvault ih =>
    have hsound :=
      Action.performAll_sound actions (ih (nodup_issuedTokens_left hdistinct)) hdistinct
    rw [World.vault, World.vault, Prod.mk.injEq] at hvault
    rw [hvault.1, hvault.2]
    exact hsound

/-! ## Dispatch -/

/-- The end of a dispatch once the handler has run: its value becomes a response. -/
def responded : Except Fault Value × World α → Except Fault Response × World α
  | (.error f, w) => (.error f, w)
  | (.ok v, w) =>
    match v.toResponse with
    | .error err => (.error (.reply err), w)
    | .ok resp => (.ok resp, w)

namespace Dispatcher

variable {d : Dispatcher α} {ctx : Context} {e : Route.Entry} {params : Params} {r : Request}
  {handler : Handler α}
  {c : Option Session} {w : World α} {j : Journal}

theorem invoke_eq (hhandler : d.handlers.get? e.handlerId = some handler) :
    d.invoke ctx e params c r w =
      responded (handler params (r.withPathParams params) { ctx with session := c } w) := by
  unfold invoke responded
  rw [hhandler]
  rfl

/-- A request whose credential is allowed runs the handler. -/
theorem serve_of_allowed (hresolve : d.credentials.resolve w.store r w.journal = (.ok c, j))
    (hguard : guard e.level c (d.clock.getD w.now) = .allowed)
    (hhandler : d.handlers.get? e.handlerId = some handler) :
    d.serve ctx e params r w =
      responded (handler params (r.withPathParams params) { ctx with session := c }
        (w.withJournal j)) := by
  unfold serve authorize
  rw [hresolve]
  dsimp only
  rw [hguard]
  exact invoke_eq hhandler

/-- A request whose credential is not allowed ends with the guard's objection. -/
theorem serve_of_denied (hresolve : d.credentials.resolve w.store r w.journal = (.ok c, j))
    {err : HttpError}
    (hguard : (guard e.level c (d.clock.getD w.now) = .unauthenticated ∧ err = .unauthorized) ∨
      (guard e.level c (d.clock.getD w.now) = .insufficientLevel ∧ err = .forbidden)) :
    ∃ j', d.serve ctx e params r w = (.error (.http err), w.withJournal j') := by
  unfold serve authorize
  rw [hresolve]
  dsimp only
  rcases hguard with ⟨hverdict, rfl⟩ | ⟨hverdict, rfl⟩
  · rw [hverdict]
    exact ⟨_, rfl⟩
  · rw [hverdict]
    exact ⟨_, rfl⟩

theorem dispatch_of_matched (hmatch : d.table.lookup r.method r.path = .matched e params) :
    d.dispatch ctx r w = d.serve ctx e params r w := by
  unfold dispatch
  rw [hmatch]

end Dispatcher

open Dispatcher in
/-- A request for a route above `anonymous` runs the route's handler, once and with the bound
parameters, if it offers a live session of a sufficient level. It is forbidden if the level of the
live session that it offers is too low, and unauthorized if it offers none; if what it offers is
signed and cannot be read, that is the fault. In none of these cases does the handler run. -/
theorem dispatch_admits {d : Dispatcher α} {w : World α} {ledger : List Deed}
    (hrun : Run d w ledger) (hdistinct : (issuedTokens ledger).Nodup)
    (hheader : IsAscii d.credentials.tokenHeader) (hclock : ∀ t, d.clock = some t → w.now ≤ t)
    (ctx : Context) (r : Request) {e : Route.Entry} {params : Params}
    (hmatch : d.table.lookup r.method r.path = .matched e params) (hlevel : e.level ≠ .anonymous)
    {handler : Handler α} (hhandler : d.handlers.get? e.handlerId = some handler) :
    (∀ x, d.credentials.offered r = .ok (some x.token) → Live ledger (d.clock.getD w.now) x →
      e.level ≤ x.level →
        d.dispatch ctx r w = responded
          (handler params (r.withPathParams params) { ctx with session := some x } w)) ∧
      (∀ x, d.credentials.offered r = .ok (some x.token) → Live ledger (d.clock.getD w.now) x →
        ¬ e.level ≤ x.level →
        ∃ j, d.dispatch ctx r w = (.error (.http .forbidden), w.withJournal j)) ∧
      (∀ token, d.credentials.offered r = .ok token →
        (∀ x, token = some x.token → ¬ Live ledger (d.clock.getD w.now) x) →
        ∃ j, d.dispatch ctx r w = (.error (.http .unauthorized), w.withJournal j)) ∧
      ∀ err, d.credentials.offered r = .error err →
        d.dispatch ctx r w = (.error (.payload err), w) := by
  have hlater : w.now ≤ d.clock.getD w.now := by
    cases ht : d.clock with
    | none => exact Int.le_refl w.now
    | some t => exact hclock t ht
  have hsound : Sound w.store (d.clock.getD w.now) ledger := (hrun.sound hdistinct).later hlater
  rw [dispatch_of_matched hmatch]
  refine ⟨?_, ?_, ?_, ?_⟩
  · intro x hoffer hlive hle
    have hworth := hsound.live?_eq_some_iff.mpr ⟨rfl, hlive⟩
    have hget : w.store.get? x.token = some x := hsound.kept hlive
    refine serve_of_allowed (j := w.journal) ?_ ?_ hhandler
    · rw [Credentials.resolve_of_token hheader hoffer, hget]
    · rw [← hget, guard_of_live hlevel hworth, if_pos hle]
  · intro x hoffer hlive hlow
    have hworth := hsound.live?_eq_some_iff.mpr ⟨rfl, hlive⟩
    refine serve_of_denied (Credentials.resolve_of_token hheader hoffer w.store w.journal)
      (Or.inr ⟨?_, rfl⟩)
    rw [guard_of_live hlevel hworth, if_neg hlow]
  · intro token hoffer hdead
    cases token with
    | none =>
      obtain ⟨j, hresolve⟩ := Credentials.resolve_of_none hheader hoffer w.store w.journal
      exact serve_of_denied hresolve (Or.inl ⟨guard_of_dead hlevel rfl, rfl⟩)
    | some token =>
      have hworth := hsound.live?_eq_none_iff.mpr fun x hx => hdead x (congrArg some hx.symm)
      exact serve_of_denied (Credentials.resolve_of_token hheader hoffer w.store w.journal)
        (Or.inl ⟨guard_of_dead hlevel hworth, rfl⟩)
  · intro err hoffer
    unfold serve
    rw [Credentials.resolve_of_error hheader hoffer]
    rfl

/-- A handler that counts how often it is run. -/
def countRun : Handler Nat :=
  fun _ _ _ w => (.ok .none, { w with own := w.own + 1 })

/-- A service with one route, which is for those who are signed in. -/
def accountService : Dispatcher Nat where
  table :=
    Route.Table.perform .empty (.add "GET" "/account/:name" "account.show" .authenticated none)
  handlers := ⟨[("account.show", countRun)]⟩

/-- A session is issued and the expired ones are purged a second later. -/
def accountActions : List Action :=
  [.issue "ann" .elevated none, .revoke "other", .advance 1000000, .purge]

/-- The world in which this is done, with nothing counted yet. -/
def newWorld : World Nat :=
  { store := { tokens := fun n => String.ofList (List.replicate (n + 1) 't') }, now := 0, own := 0 }

/-- A request with the token of that session in its header, and another one in its cookie. -/
def accountRequest : Request :=
  { method := "GET"
    path := "/account/ann"
    headers := ⟨[(Codec.encodeUtf8 "x-flare-TOKEN", Codec.encodeUtf8 "t")]⟩
    cookies := [("SESSION_ID", "other")] }

theorem dispatch_admits_account :
    accountService.dispatch .outside accountRequest (Action.performAll newWorld accountActions) =
      responded (countRun [("name", "ann")] (accountRequest.withPathParams [("name", "ann")])
        { session := some ⟨"t", .elevated, 604800000000, "ann"⟩ }
          (Action.performAll newWorld accountActions)) := by
  have hrun : Run accountService (Action.performAll newWorld accountActions)
      [.issued ⟨"t", .elevated, 604800000000, "ann"⟩, .revoked "other"] :=
    ((((Run.start rfl).act (.issue "ann" .elevated none)).act (.revoke "other")).act
      (.advance 1000000)).act .purge
  have hmatch : accountService.table.lookup accountRequest.method accountRequest.path =
      .matched ⟨"GET", ⟨[.literal "account", .parameter "name"]⟩, "account.show", .authenticated,
        none⟩ [("name", "ann")] := rfl
  have h := dispatch_admits hrun (by decide) (by decide) nofun .outside accountRequest hmatch
    (by decide) rfl
  exact h.1 ⟨"t", .elevated, 604800000000, "ann"⟩ rfl
    ⟨⟨[], [.revoked "other"], rfl, by decide⟩, by decide⟩ (by decide)

end Waypost.Service
