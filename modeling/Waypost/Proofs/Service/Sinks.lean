import Waypost.Proofs.Service.Admission

/-!
# The sink has no say

Security events go to a sink, which may be there or not and may fail on any of them. All that it
leaves in the journal are the events that it got and the reports of its failures, and nothing that
the service does depends on these.

* `Journal.muted` : the journal without a sink and without what a sink leaves; `muted_emit`,
  `muted_log` : what is emitted is not in it, and what is logged is;
* `issue_muted`, `login_muted`, `resolve_muted`, ... : each operation commutes with it;
* `Act.Impartial` : application code that does not look at what a sink leaves; `dispatch_impartial`
  : a dispatch is impartial if the handlers are;
* `AccessCall`, `transcript` : what can be asked of a service, and the results of one such call
  after another, each with the sessions that it leaves;
* `transcript_eq_of_muted_eq` : the transcript is the same whatever has become of the sink.
-/

namespace Waypost

/-! ## Journals without a sink -/

namespace Journal

/-- The journal without a sink, and without what a sink leaves: the events that it got and the
reports of its failures. -/
def muted (j : Journal) : Journal where
  threshold := j.threshold
  records := j.records.filter fun r => r.logger ≠ .security

theorem muted_muted (j : Journal) : j.muted.muted = j.muted := by
  simp [muted, List.filter_filter]

theorem muted_log (j : Journal) {r : LogRecord} (hr : r.logger ≠ .security) :
    (j.log r).muted = j.muted.log r := by
  unfold log
  rw [show j.muted.threshold = j.threshold from rfl]
  split_ifs
  · simp [muted, hr]
  · rfl

/-- A report of the sink itself does not count. -/
theorem muted_log_security (j : Journal) {r : LogRecord} (hr : r.logger = .security) :
    (j.log r).muted = j.muted := by
  unfold log
  split_ifs
  · simp [muted, hr]
  · rfl

theorem muted_emit (j : Journal) (ev : SecurityEvent) : (j.emit ev).muted = j.muted := by
  unfold emit
  split
  · rfl
  · split
    · rfl
    · exact muted_log_security _ rfl

/-- Without a sink, emitting after logging is logging. -/
theorem emit_log_muted (j : Journal) (r : LogRecord) (ev : SecurityEvent) :
    (j.muted.log r).emit ev = j.muted.log r := by
  unfold log
  split_ifs <;> rfl

end Journal

namespace Access

open Time

/-- A result without what a sink leaves in the journal. -/
def mutedEnd {β : Type} (x : β × Journal) : β × Journal :=
  (x.1, x.2.muted)

/-- A result and a store without what a sink leaves in the journal. -/
def mutedStoreEnd {β : Type} (x : β × Store × Journal) : β × Store × Journal :=
  (x.1, x.2.1, x.2.2.muted)

theorem issue_muted (s : Store) (now : Instant) (userId : String) (level : Level)
    (ttl : Option Duration) (j : Journal) :
    mutedStoreEnd (s.issue now userId level ttl j) = s.issue now userId level ttl j.muted := by
  unfold Store.issue
  dsimp only
  cases Instant.add now (ttl.getD s.ttl) with
  | error e => rfl
  | ok expiresAt =>
    unfold mutedStoreEnd
    dsimp only
    rw [Journal.muted_emit, Journal.muted_log j (by nofun), Journal.emit_log_muted]

theorem revoke_muted (s : Store) (token : String) (j : Journal) :
    mutedStoreEnd (s.revoke token j) = s.revoke token j.muted := by
  unfold Store.revoke
  cases s.get? token with
  | none => rfl
  | some session =>
    unfold mutedStoreEnd
    dsimp only
    rw [Journal.muted_emit]
    rfl

theorem purge_muted (s : Store) (now : Instant) (j : Journal) :
    mutedStoreEnd (s.purge now j) = s.purge now j.muted := by
  unfold Store.purge
  dsimp only
  split_ifs
  · rfl
  · unfold mutedStoreEnd
    dsimp only
    rw [Journal.muted_log j (by nofun)]

theorem login_muted (account : Option Account) (password : String) (s : Store) (now : Instant)
    (j : Journal) :
    mutedStoreEnd (login account password s now j) = login account password s now j.muted := by
  unfold login
  cases passwordFits account password with
  | error e => rfl
  | ok fits =>
    cases fits with
    | none =>
      unfold mutedStoreEnd
      dsimp only
      rw [Journal.muted_emit]
      rfl
    | some a =>
      dsimp only
      split_ifs
      · unfold mutedStoreEnd
        dsimp only
        rw [Journal.muted_emit, Journal.muted_log j (by nofun), Journal.emit_log_muted]
      · rw [← issue_muted]
        rcases s.issue now a.id a.level none j with ⟨e | session, s', j'⟩
        · rfl
        · unfold mutedStoreEnd
          dsimp only
          rw [Journal.muted_emit]
          rfl

theorem logout_muted (token : Option String) (s : Store) (j : Journal) :
    mutedStoreEnd (logout token s j) = logout token s j.muted := by
  unfold logout
  cases token.filter fun t => !t.isEmpty with
  | none => rfl
  | some t =>
    dsimp only
    rw [← revoke_muted]
    rcases s.revoke t j with ⟨_ | _, s', j'⟩ <;> rfl

theorem token_muted (c : Credentials) (r : Request) (value : String) (j : Journal) :
    mutedEnd (c.token r value j) = c.token r value j.muted := by
  unfold Credentials.token
  cases c.signer with
  | none => rfl
  | some signer =>
    dsimp only
    rcases signer.unsign value with e | ⟨_ | token⟩
    · rfl
    · unfold mutedEnd
      dsimp only
      rw [Journal.muted_emit, Journal.muted_log j (by nofun), Journal.emit_log_muted]
    · rfl

theorem resolve_muted (c : Credentials) (s : Store) (r : Request) (j : Journal) :
    mutedEnd (c.resolve s r j) = c.resolve s r j.muted := by
  unfold Credentials.resolve
  rcases c.presented r with e | ⟨_ | value⟩
  · rfl
  · rfl
  · dsimp only
    rw [← token_muted]
    rcases c.token r value j with ⟨e | token, j'⟩ <;> rfl

end Access

namespace Service

open Access Time

variable {α β : Type}

/-! ## Application code that does not look -/

/-- The world without what a sink leaves in its journal. -/
def World.muted (w : World α) : World α :=
  w.withJournal w.journal.muted

/-- A result and a world without what a sink leaves in its journal. -/
def mutedAfter (x : β × World α) : β × World α :=
  (x.1, x.2.muted)

theorem World.muted_muted (w : World α) : w.muted.muted = w.muted :=
  congrArg w.withJournal w.journal.muted_muted

/-- A piece of application code does not look at what a sink leaves. -/
def Act.Impartial (a : Act α β) : Prop :=
  ∀ w, mutedAfter (a w) = mutedAfter (a w.muted)

/-- No handler of a dispatcher looks at what a sink leaves. -/
def Dispatcher.Impartial (d : Dispatcher α) : Prop :=
  ∀ id handler, d.handlers.get? id = some handler →
    ∀ params r ctx, Act.Impartial (handler params r ctx)

namespace Act.Impartial

variable {a : Act α β}

theorem congr (ha : Impartial a) {w w' : World α} (h : w.muted = w'.muted) :
    mutedAfter (a w) = mutedAfter (a w') := by
  rw [ha w, ha w', h]

/-- Code that commutes with muting does not look. -/
theorem of_muted (h : ∀ w, mutedAfter (a w) = a w.muted) : Impartial a := by
  intro w
  rw [← h w]
  exact congrArg (Prod.mk (a w).1) (a w).2.muted_muted.symm

theorem pure (b : β) : Impartial (Pure.pure b : Act α β) :=
  of_muted fun _ => rfl

/-- Code that is put together of code that does not look does not look either. -/
theorem bind {γ : Type} {k : β → Act α γ} (ha : Impartial a) (hk : ∀ b, Impartial (k b)) :
    Impartial (a >>= k) := by
  have hbind : ∀ w, (a >>= k) w =
      match a w with
      | (.error f, w') => (.error f, w')
      | (.ok b, w') => k b w' := by
    intro w
    change StateT.bind a (ExceptT.bindCont k) w = _
    unfold StateT.bind
    rcases a w with ⟨f | b, w'⟩ <;> rfl
  intro w
  have hfirst := ha w
  rw [hbind, hbind]
  generalize a w = x, a w.muted = y at hfirst
  obtain ⟨result, w₁⟩ := x
  obtain ⟨result', w₂⟩ := y
  obtain ⟨rfl, hworld⟩ := Prod.mk.inj hfirst
  cases result with
  | error f => exact congrArg (Prod.mk _) hworld
  | ok b => exact (hk b).congr hworld

end Act.Impartial

namespace Dispatcher

variable {d : Dispatcher α}

theorem authorize_muted (required : Level) (credential : Option Session) (now : Instant)
    (r : Request) (j : Journal) :
    mutedEnd (authorize required credential now r j) =
      authorize required credential now r j.muted := by
  unfold authorize
  cases guard required credential now with
  | allowed => rfl
  | unauthenticated => exact congrArg (Prod.mk _) (Journal.muted_emit j _)
  | insufficientLevel => exact congrArg (Prod.mk _) (Journal.muted_emit j _)

theorem invoke_impartial (hd : d.Impartial) (ctx : Context) (e : Route.Entry) (params : Params)
    (credential : Option Session) (r : Request) :
    Act.Impartial (d.invoke ctx e params credential r) := by
  intro w
  cases hhandler : d.handlers.get? e.handlerId with
  | none =>
    unfold invoke
    rw [hhandler]
    exact congrArg (Prod.mk _) w.muted_muted.symm
  | some handler =>
    have hrun :=
      hd _ handler hhandler params (r.withPathParams params) { ctx with session := credential } w
    rw [invoke_eq hhandler, invoke_eq hhandler]
    -- What the handler ends with decides what becomes of its value, and the sink has no part in it.
    have hresponded : ∀ x : Except Fault Value × World α,
        mutedAfter (responded x) = responded (mutedAfter x) := by
      rintro ⟨f | v, w'⟩
      · rfl
      · unfold responded mutedAfter
        dsimp only
        cases v.toResponse <;> rfl
    rw [hresponded, hresponded, hrun]

theorem serve_impartial (hd : d.Impartial) (ctx : Context) (e : Route.Entry) (params : Params)
    (r : Request) : Act.Impartial (d.serve ctx e params r) := by
  intro w
  have hresolve := resolve_muted d.credentials w.store r w.journal
  unfold serve
  rw [show d.credentials.resolve w.muted.store r w.muted.journal =
    mutedEnd (d.credentials.resolve w.store r w.journal) from
    hresolve.symm, show w.muted.now = w.now from rfl]
  rcases d.credentials.resolve w.store r w.journal with ⟨f | credential, j⟩
  · exact congrArg (fun j => (Except.error f, w.withJournal j)) j.muted_muted.symm
  · have hauthorize := authorize_muted e.level credential (d.clock.getD w.now) r j
    dsimp only [mutedEnd] at hauthorize ⊢
    rw [← hauthorize]
    rcases authorize e.level credential (d.clock.getD w.now) r j with ⟨_ | err, j'⟩
    · exact invoke_impartial hd ctx e params credential r (w.withJournal j')
    · exact congrArg (fun j => (Except.error (Fault.http err), w.withJournal j)) j'.muted_muted.symm

/-- A dispatch does not look at what a sink leaves, if no handler does. -/
theorem dispatch_impartial (hd : d.Impartial) (ctx : Context) (r : Request) :
    Act.Impartial (d.dispatch ctx r) := by
  intro w
  unfold dispatch
  cases d.table.lookup r.method r.path with
  | matched e params => exact serve_impartial hd ctx e params r w
  | methodNotAllowed path allowed => exact congrArg (Prod.mk _) w.muted_muted.symm
  | noRoute path => exact congrArg (Prod.mk _) w.muted_muted.symm

end Dispatcher

/-! ## Calls -/

/-- What can be asked of a service. The clock may go back. -/
inductive AccessCall (α : Type) where
  | issue (userId : String) (level : Level) (ttl : Option Duration)
  | revoke (token : String)
  | get (token : String)
  | purge
  | login (account : Option Account) (password : String)
  | logout (token : Option String)
  | resolve (credentials : Credentials) (r : Request)
  | dispatch (d : Dispatcher α) (ctx : Context) (r : Request)
  | advance (micros : Int)

/-- What a call returns. -/
inductive Answer where
  | issued (session : Session)
  | revoked (found : Bool)
  | found (session : Option Session)
  | purged (count : Nat)
  | login (outcome : LoginOutcome)
  | logout (outcome : LogoutOutcome)
  | response (r : Response)
  | time (now : Instant)

theorem advance_muted (w : World α) (micros : Int) :
    mutedAfter (w.advance micros) = w.muted.advance micros := by
  unfold World.advance
  rw [show w.muted.now = w.now from rfl]
  cases Duration.ofMicros micros with
  | error e => rfl
  | ok d =>
    dsimp only
    cases Instant.add w.now d <;> rfl

/-- The end of a call that works on the store and the journal of a world. -/
def World.settle (w : World α) (say : β → Except Fault Answer) (x : β × Store × Journal) :
    Except Fault Answer × World α :=
  (say x.1, { w with store := x.2.1, journal := x.2.2 })

theorem settle_muted (w : World α) (say : β → Except Fault Answer) (x : β × Store × Journal) :
    mutedAfter (w.settle say x) = w.muted.settle say (mutedStoreEnd x) := rfl

namespace AccessCall

/-- Carries out a call. -/
def perform : AccessCall α → Act α Answer
  | .issue userId level ttl => fun w =>
    w.settle (fun result => (result.mapError .range).map .issued)
      (w.store.issue w.now userId level ttl w.journal)
  | .revoke token =>
    fun w => w.settle (fun found => .ok (.revoked found)) (w.store.revoke token w.journal)
  | .get token => fun w => (.ok (.found (w.store.get? token)), w)
  | .purge => fun w => w.settle (fun count => .ok (.purged count)) (w.store.purge w.now w.journal)
  | .login account password => fun w =>
    w.settle (fun result => result.map .login)
      (Access.login account password w.store w.now w.journal)
  | .logout token =>
    fun w => w.settle (fun outcome => .ok (.logout outcome)) (Access.logout token w.store w.journal)
  | .resolve credentials r => fun w =>
    ((credentials.resolve w.store r w.journal).1.map .found,
      w.withJournal (credentials.resolve w.store r w.journal).2)
  | .dispatch d ctx r => fun w => ((d.dispatch ctx r w).1.map .response, (d.dispatch ctx r w).2)
  | .advance micros => fun w => ((w.advance micros).1.map .time, (w.advance micros).2)

/-- The application code that a call runs does not look at what a sink leaves. -/
def Impartial : AccessCall α → Prop
  | .dispatch d _ _ => d.Impartial
  | _ => True

theorem perform_impartial {c : AccessCall α} (hc : c.Impartial) : Act.Impartial c.perform := by
  -- What works on the store and the journal alone commutes with muting.
  have hstore : ∀ {β : Type} (say : β → Except Fault Answer)
      (op : Store → Instant → Journal → β × Store × Journal),
      (∀ s now j, mutedStoreEnd (op s now j) = op s now j.muted) →
        Act.Impartial (fun w : World α => w.settle say (op w.store w.now w.journal)) := by
    intro β say op hop
    refine Act.Impartial.of_muted fun w => ?_
    rw [settle_muted, hop]
    rfl
  cases c with
  | issue userId level ttl =>
    exact hstore _ (fun s now j => s.issue now userId level ttl j) fun s now j =>
      issue_muted s now userId level ttl j
  | revoke token =>
    exact hstore _ (fun s _ j => s.revoke token j) fun s _ j => revoke_muted s token j
  | get token => exact Act.Impartial.of_muted fun w => rfl
  | purge => exact hstore _ (fun s now j => s.purge now j) fun s now j => purge_muted s now j
  | login account password =>
    exact hstore _ (fun s now j => Access.login account password s now j) fun s now j =>
      login_muted account password s now j
  | logout token =>
    exact hstore _ (fun s _ j => Access.logout token s j) fun s _ j => logout_muted token s j
  | resolve credentials r =>
    refine Act.Impartial.of_muted fun w => ?_
    have hresolve : credentials.resolve w.muted.store r w.muted.journal =
        mutedEnd (credentials.resolve w.store r w.journal) :=
          (resolve_muted credentials w.store r w.journal).symm
    unfold perform
    dsimp only
    rw [hresolve]
    generalize credentials.resolve w.store r w.journal = x
    rfl
  | dispatch d ctx r =>
    intro w
    have hdispatch := d.dispatch_impartial hc ctx r w
    exact congrArg (fun x : Except Fault Response × World α => (x.1.map Answer.response, x.2))
      hdispatch
  | advance micros =>
    refine Act.Impartial.of_muted fun w => ?_
    exact congrArg (fun x : Except Fault Instant × World α => (x.1.map Answer.time, x.2))
      (advance_muted w micros)

end AccessCall

/-! ## Runs -/

/-- The world after a list of calls. One that ends with a fault does not end the run. -/
def performCalls (w : World α) : List (AccessCall α) → World α
  | [] => w
  | c :: calls => performCalls (c.perform w).2 calls

/-- The results of a list of calls, each with the store that it leaves. -/
def transcript (w : World α) : List (AccessCall α) → List (Except Fault Answer × Store)
  | [] => []
  | c :: calls => ((c.perform w).1, (c.perform w).2.store) :: transcript (c.perform w).2 calls

/-- Worlds that differ in what a sink leaves give the same results, and go on to differ in no more
than this. -/
theorem transcript_eq_of_muted_eq {calls : List (AccessCall α)} (hcalls : ∀ c ∈ calls, c.Impartial)
    {w w' : World α} (h : w.muted = w'.muted) :
    transcript w calls = transcript w' calls ∧
      (performCalls w calls).muted = (performCalls w' calls).muted := by
  induction calls generalizing w w' with
  | nil => exact ⟨rfl, h⟩
  | cons c calls ih =>
    obtain ⟨hc, hcalls⟩ := List.forall_mem_cons.mp hcalls
    have hstep := (c.perform_impartial hc).congr h
    obtain ⟨hresult, hworld⟩ := Prod.mk.inj hstep
    have hstore : (c.perform w).2.muted.store = (c.perform w').2.muted.store :=
      congrArg World.store hworld
    obtain ⟨hrest, hend⟩ := ih hcalls hworld
    refine ⟨?_, hend⟩
    rw [transcript, transcript, hresult, hrest]
    exact congrArg (fun s => ((c.perform w').1, s) :: transcript (c.perform w').2 calls) hstore

/-- The world with another sink. -/
def World.withSink (w : World α) (sink : Sink) : World α :=
  w.withJournal { w.journal with sink }

/-- Whether there is a sink, and whatever it fails on, every call returns the same or ends with the
same fault, and leaves the same sessions. All that differs in the end are the events that the sink
got and the reports of its failures. -/
theorem transcript_withSink_eq {calls : List (AccessCall α)} (hcalls : ∀ c ∈ calls, c.Impartial)
    (w : World α) (sink sink' : Sink) :
    transcript (w.withSink sink) calls = transcript (w.withSink sink') calls ∧
      (performCalls (w.withSink sink) calls).muted =
        (performCalls (w.withSink sink') calls).muted :=
  transcript_eq_of_muted_eq hcalls rfl

/-- A handler that issues a session and ends another one. -/
def welcome : Handler Nat := fun _ _ _ => do
  let _ ← AccessCall.perform (.issue "guest" .anonymous none)
  let _ ← AccessCall.perform (.logout (some "t"))
  pure (.text "welcome")

/-- A service with a route for everybody and one for those who are signed in. -/
def guestService : Dispatcher Nat where
  table :=
    [Route.Call.add "GET" "/" "welcome" .anonymous none,
      .add "GET" "/inside" "welcome" .authenticated none].foldl
      Route.Table.perform .empty
  handlers := ⟨[("welcome", welcome)]⟩

/-- An attempt to log in, a session that is issued, two requests of which one is refused, and what
becomes of the sessions. -/
def guestCalls : List (AccessCall Nat) :=
  [.login none "guess", .issue "ann" .authenticated none,
    .dispatch guestService .outside { method := "GET", path := "/" },
    .dispatch guestService .outside { method := "GET", path := "/inside" }, .get "t", .revoke "tt",
    .advance (-1), .purge]

/-- A receiver that fails on every other event. -/
def waveringSink : Sink :=
  .receiver fun n _ => if n % 2 = 0 then some .runtime else none

theorem transcript_withSink_eq_guestCalls :
    transcript (newWorld.withSink waveringSink) guestCalls =
      transcript (newWorld.withSink .none) guestCalls ∧
      (performCalls (newWorld.withSink waveringSink) guestCalls).journal.deliveries.length = 6 := by
  have hwelcome : ∀ params r ctx, Act.Impartial (welcome params r ctx) := fun _ _ _ =>
    (AccessCall.perform_impartial (c := .issue "guest" .anonymous none) trivial).bind fun _ =>
      (AccessCall.perform_impartial (c := .logout (some "t")) trivial).bind fun _ => .pure _
  have hservice : guestService.Impartial := by
    intro id handler hhandler
    have hone : (if "welcome" = id then some welcome else none) = some handler := hhandler
    split_ifs at hone
    rw [← Option.some.inj hone]
    exact hwelcome
  have hcalls : ∀ c ∈ guestCalls, c.Impartial := by
    simp [guestCalls, AccessCall.Impartial, hservice]
  exact ⟨(transcript_withSink_eq hcalls newWorld waveringSink .none).1, by decide⟩

end Service

end Waypost
