import Waypost.Proofs.Browser.Process

/-!
# Runs of the engine

* `Step`, `perform`, `run` : what can happen to an engine from outside, and one such thing after
  another;
* `TakesUp`, `Handles` : a run deals with an intent, with the engine as it is at that moment;
* `Smooth` : no step of a run faults, which only a credential that cannot be read makes it do
  (`smooth_of_reads`);
* `QuietOn P tell` : those who listen do not call back into the engine;
* `Harmless tell` : those who listen write no path anywhere, though they may call back;
* `submit_quiet`, `processNext_quiet` : what a submission and an intent that is dealt with change
  when nobody calls back.
-/

namespace Waypost.Browser

open Access Time

/-- What can happen to an engine from outside. Waiting intents are dealt with one at a time or all
together. -/
inductive Step where
  | submit (path : String) (trigger : Trigger) (replace : Bool) (index : Option Int)
  | travel (trigger : Trigger)
  | next
  | process (more : Nat)
  | credential (source : Source) (wallet : Wallet)
  | clock (now : Instant)

/-- A move of the browser goes to another of its entries. -/
theorem History.move?_spec {h h' : History} {t : Trigger} (hmove : h.move? t = some h') :
    t.isExternal ∧ h'.entries = h.entries ∧
      (h.index < h.entries.length → h'.index < h'.entries.length) := by
  cases t with
  | userClick => simp [History.move?] at hmove
  | programmatic => simp [History.move?] at hmove
  | back =>
    simp only [History.move?, History.back?] at hmove
    split_ifs at hmove
    rw [← Option.some.inj hmove]
    refine ⟨rfl, rfl, ?_⟩
    dsimp only
    omega
  | forward =>
    simp only [History.move?, History.forward?] at hmove
    split_ifs at hmove with hnext
    rw [← Option.some.inj hmove]
    exact ⟨rfl, rfl, fun _ => hnext⟩

namespace Engine

variable {ω : Type} {tell : Event → Engine ω → Engine ω}

/-- Carries out a step. -/
def perform (tell : Event → Engine ω → Engine ω) (e : Engine ω) :
    Step → Except Fault Unit × Engine ω
  | .submit path trigger replace index => (.ok (), (e.submit tell path trigger replace index).2)
  | .travel t => (.ok (), (e.travel tell t).2)
  | .next => (e.processNext tell).getD (.ok (), e)
  | .process more =>
    ((e.processPending tell more).1.map fun _ => (), (e.processPending tell more).2)
  | .credential source wallet => (.ok (), { e with source, wallet })
  | .clock now => (.ok (), { e with now })

/-- The engine after a list of steps; a step that faults does not end the run. -/
def run (tell : Event → Engine ω → Engine ω) : Engine ω → List Step → Engine ω
  | e, [] => e
  | e, s :: steps => run tell (e.perform tell s).2 steps

/-- No step of a run faults. -/
def Smooth (tell : Event → Engine ω → Engine ω) : Engine ω → List Step → Prop
  | _, [] => True
  | e, s :: steps => (e.perform tell s).1 = .ok () ∧ Smooth tell (e.perform tell s).2 steps

/-- What the steps of one kind keep, a smooth run of them keeps. -/
theorem Smooth.keeps {I : Engine ω → Prop} {K : Step → Prop}
    (hstep : ∀ e s, K s → I e → (e.perform tell s).1 = .ok () → I (e.perform tell s).2)
    {steps : List Step} {e : Engine ω} (hsmooth : Smooth tell e steps) (hkind : ∀ s ∈ steps, K s)
    (h : I e) : I (run tell e steps) := by
  induction steps generalizing e with
  | nil => exact h
  | cons s steps ih =>
    obtain ⟨hok, hrest⟩ := hsmooth
    have hnow : I (e.perform tell s).2 := hstep e s (hkind s List.mem_cons_self) h hok
    exact ih hrest (fun s' hs' => hkind s' (List.mem_cons_of_mem s hs')) hnow

/-- What dealing with one intent keeps, dealing with all that wait keeps. -/
theorem processFor_keeps {I : Engine ω → Prop}
    (hnext : ∀ e e', I e → e.processNext tell = some (.ok (), e') → I e') (fuel n : Nat)
    (e : Engine ω) (h : I e) {m : Nat} (hok : (processFor tell fuel n e).1 = .ok m) :
    I (processFor tell fuel n e).2 := by
  induction fuel generalizing n e with
  | zero => exact h
  | succ fuel ih =>
    unfold processFor at hok ⊢
    split at hok
    · exact h
    · exact absurd hok (by simp)
    · rename_i e' heq
      exact ih (n + 1) e' (hnext e e' h heq) hok

/-- An intent that is dealt with without a fault ends in one of its ways; what comes after is up to
those who are told. -/
theorem processNext_spec {e e' : Engine ω} {i : Intent} {rest : List Intent}
    (hqueue : e.queue = i :: rest) (hnext : e.processNext tell = some (.ok (), e')) :
    ∃ ev e₁, e₁.backdrop = { e.backdrop with queue := rest } ∧
      Ends { e with queue := rest } i ev e₁.standing ∧ e'.backdrop =
        { (tell ev e₁).backdrop with
          outcomes := Keyed.putNew i.generation (.event ev) (tell ev e₁).outcomes } ∧
      e'.standing = (tell ev e₁).standing := by
  unfold processNext at hnext
  rw [hqueue] at hnext
  dsimp only at hnext
  rcases process_spec tell { e with queue := rest } i with
    ⟨f, e₁, hprocess, -, -, -⟩ | ⟨ev, e₁, hprocess, hbackdrop, hends⟩
  · rw [hprocess] at hnext
    simp at hnext
  · rw [hprocess] at hnext
    simp only [Option.some.injEq, Prod.mk.injEq, true_and] at hnext
    obtain ⟨hclosing, hstanding⟩ := closing_spec ev (tell ev e₁)
    refine ⟨ev, e₁, hbackdrop, hends, ?_, ?_⟩
    · rw [← hnext, ← hclosing]
      exact congrArg (fun o =>
        { (closing ev (tell ev e₁)).backdrop with
          outcomes := Keyed.putNew i.generation (.event ev) o })
        (congrArg Backdrop.outcomes hclosing)
    · rw [← hnext]
      exact hstanding

/-- An intent whose credential cannot be read is lost, and nothing else. -/
theorem processNext_error {e e' : Engine ω} {f : Fault} {i : Intent} {rest : List Intent}
    (hqueue : e.queue = i :: rest) (hnext : e.processNext tell = some (.error f, e')) :
    (credential { e with queue := rest }).1 = .error f ∧
      e'.backdrop = { e.backdrop with queue := rest } ∧ e'.standing = e.standing := by
  unfold processNext at hnext
  rw [hqueue] at hnext
  dsimp only at hnext
  rcases process_spec tell { e with queue := rest } i with
    ⟨f, e₁, hprocess, hread, hbackdrop, hstanding⟩ | ⟨ev, e₁, hprocess, -, -⟩
  · rw [hprocess] at hnext
    simp only [Option.some.injEq, Prod.mk.injEq, Except.error.injEq] at hnext
    rw [← hnext.1, ← hnext.2]
    exact ⟨hread, hbackdrop, hstanding⟩
  · rw [hprocess] at hnext
    simp at hnext

/-! ## The intents that a run deals with -/

/-- Dealing with at most `fuel` intents comes to `i`, with the engine as given last. -/
inductive TakesUp (tell : Event → Engine ω → Engine ω) :
    Nat → Engine ω → Intent → Engine ω → Prop where
  | first {fuel : Nat} {e : Engine ω} {i : Intent} {rest : List Intent}
      (hqueue : e.queue = i :: rest) : TakesUp tell (fuel + 1) e i { e with queue := rest }
  | later {fuel : Nat} {e e₁ e' : Engine ω} {i : Intent}
      (hnext : e.processNext tell = some (.ok (), e₁))
      (hlater : TakesUp tell fuel e₁ i e') : TakesUp tell (fuel + 1) e i e'

/-- A run comes to deal with `i`, with the engine as given last. -/
inductive Handles (tell : Event → Engine ω → Engine ω) :
    Engine ω → List Step → Intent → Engine ω → Prop where
  | next {e : Engine ω} {i : Intent} {rest : List Intent} {steps : List Step}
      (hqueue : e.queue = i :: rest) : Handles tell e (.next :: steps) i { e with queue := rest }
  | process {e e' : Engine ω} {more : Nat} {steps : List Step} {i : Intent}
      (htakes : TakesUp tell (e.queue.length + more) e i e') :
      Handles tell e (.process more :: steps) i e'
  | later {e e' : Engine ω} {s : Step} {steps : List Step} {i : Intent}
      (hlater : Handles tell (e.perform tell s).2 steps i e') : Handles tell e (s :: steps) i e'

theorem exists_cons_of_processNext {e e' : Engine ω} {r : Except Fault Unit}
    (hnext : e.processNext tell = some (r, e')) :
    ∃ i rest, e.queue = i :: rest := by
  cases hqueue : e.queue with
  | nil => simp [processNext, hqueue] at hnext
  | cons i rest => exact ⟨i, rest, rfl⟩

theorem processFor_error {fuel n : Nat} {e : Engine ω} {f : Fault}
    (h : (processFor tell fuel n e).1 = .error f) :
    ∃ i e', TakesUp tell fuel e i e' ∧ e'.credential.1 = .error f := by
  induction fuel generalizing n e with
  | zero => simp [processFor] at h
  | succ fuel ih =>
    unfold processFor at h
    split at h
    · simp at h
    · rename_i f' e' hnext
      obtain rfl := Except.error.inj h
      obtain ⟨i, rest, hqueue⟩ := exists_cons_of_processNext hnext
      exact ⟨i, { e with queue := rest }, .first hqueue, (processNext_error hqueue hnext).1⟩
    · rename_i e' hnext
      obtain ⟨i, e'', htakes, hread⟩ := ih h
      exact ⟨i, e'', .later hnext htakes, hread⟩

/-- A step faults only where the credential cannot be read. -/
theorem perform_error {e : Engine ω} {s : Step} {f : Fault} (h : (e.perform tell s).1 = .error f)
    (steps : List Step) :
    ∃ i e', Handles tell e (s :: steps) i e' ∧ e'.credential.1 = .error f := by
  cases s with
  | submit path trigger replace index => simp [perform] at h
  | travel t => simp [perform] at h
  | next =>
    unfold perform at h
    cases hnext : e.processNext tell with
    | none => simp [hnext] at h
    | some result =>
      obtain ⟨r, e'⟩ := result
      rw [hnext] at h
      obtain rfl : r = .error f := h
      obtain ⟨i, rest, hqueue⟩ := exists_cons_of_processNext hnext
      exact ⟨i, { e with queue := rest }, .next hqueue, (processNext_error hqueue hnext).1⟩
  | process more =>
    cases hresult : (e.processPending tell more).1 with
    | error f' =>
      simp only [perform, hresult, Except.map, Except.error.injEq] at h
      subst h
      obtain ⟨i, e', htakes, hread⟩ := processFor_error hresult
      exact ⟨i, e', .process htakes, hread⟩
    | ok m => simp [perform, hresult, Except.map] at h
  | credential source wallet => simp [perform] at h
  | clock now => simp [perform] at h

/-- A run is smooth if the credential can be read whenever an intent is dealt with. -/
theorem smooth_of_reads {steps : List Step} {e : Engine ω}
    (hreads : ∀ i e', Handles tell e steps i e' → ∃ session, e'.credential.1 = .ok session) :
    Smooth tell e steps := by
  induction steps generalizing e with
  | nil => trivial
  | cons s steps ih =>
    refine ⟨?_, ih fun i e' hhandles => hreads i e' (.later hhandles)⟩
    cases hresult : (e.perform tell s).1 with
    | ok u => rfl
    | error f =>
      obtain ⟨i, e', hhandles, hread⟩ := perform_error hresult steps
      obtain ⟨session, hok⟩ := hreads i e' hhandles
      rw [hread] at hok
      cases hok

/-! ## Listeners that do not call back -/

/-- The engine `e'` is `e` but for who is signed in, the clock, the journal and what belongs to
those who listen, of which `P` holds. -/
def Aside (P : ω → Prop) (e e' : Engine ω) : Prop :=
  ∃ own journal source wallet now, P own ∧ e' = { e with own, journal, source, wallet, now }

/-- Those who listen do not call back into the engine, as long as `P` holds of what belongs to them,
and it goes on to hold. -/
def QuietOn (P : ω → Prop) (tell : Event → Engine ω → Engine ω) : Prop :=
  ∀ ev e, P e.own → Aside P e (tell ev e)

/-- The intent that a submission queues. -/
def newIntent (e : Engine ω) (path : String) (trigger : Trigger) (replace : Bool)
    (index : Option Int) : Intent :=
  ⟨path, trigger, replace, e.generation + 1,
    if trigger.isExternal then some (index.getD e.history.index) else none⟩

section Quiet

variable {P : ω → Prop}

theorem reportSuperseded_quiet (hquiet : QuietOn P tell) (new : Intent) (olds : List Intent)
    (e : Engine ω) (hown : P e.own) :
    ∃ own journal source wallet now outcomes, P own ∧
      reportSuperseded tell new e olds =
        { e with own, journal, source, wallet, now, outcomes } := by
  induction olds generalizing e with
  | nil => exact ⟨e.own, e.journal, e.source, e.wallet, e.now, e.outcomes, hown, rfl⟩
  | cons old olds ih =>
    unfold reportSuperseded
    obtain ⟨own, journal, source, wallet, now, hown₁, htell⟩ := hquiet (.superseded old new)
      (e.resolve old.generation (.event (.superseded old new))) hown
    obtain ⟨own', journal', source', wallet', now', outcomes, hown', hrest⟩ :=
      ih (tell (.superseded old new)
        (e.resolve old.generation (.event (.superseded old new)))) (by rw [htell]; exact hown₁)
    refine ⟨own', journal', source', wallet', now', outcomes, hown', ?_⟩
    rw [hrest, htell]
    rfl

/-- A submission takes out of the queue what its intent supersedes and puts the intent last; the
engine stands where it stood. -/
theorem submit_quiet (hquiet : QuietOn P tell) (e : Engine ω) (hown : P e.own) (path : String)
    (trigger : Trigger) (replace : Bool) (index : Option Int) :
    ∃ own journal source wallet now outcomes, P own ∧ (e.submit tell path trigger replace index).2 =
      { e with
        own, journal, source, wallet, now, outcomes
        generation := e.generation + 1
        queue :=
          (e.queue.filter fun old => !supersedes (e.newIntent path trigger replace index) old) ++
            [e.newIntent path trigger replace index]
        trail := { e.trail with pending := some (e.newIntent path trigger replace index) }
        signals := e.signals ++ [.wake] } := by
  obtain ⟨own, journal, source, wallet, now, outcomes, hown', hreport⟩ :=
    reportSuperseded_quiet hquiet (e.newIntent path trigger replace index)
      (e.queue.filter fun old => supersedes (e.newIntent path trigger replace index) old)
      { e with
        generation := e.generation + 1
        queue :=
          e.queue.filter fun old => !supersedes (e.newIntent path trigger replace index) old } hown
  refine ⟨own, journal, source, wallet, now, outcomes, hown', ?_⟩
  unfold submit supersede
  unfold newIntent at hreport ⊢
  dsimp only at hreport ⊢
  rw [hreport]

/-- Dealing with the first waiting intent without a fault ends it in one of its ways. -/
theorem processNext_quiet (hquiet : QuietOn P tell) {e e' : Engine ω} {i : Intent}
    {rest : List Intent} (hown : P e.own) (hqueue : e.queue = i :: rest)
    (hnext : e.processNext tell = some (.ok (), e')) :
    P e'.own ∧ e'.queue = rest ∧ e'.listening = e.listening ∧ e'.refuses = e.refuses ∧
      ∃ ev, Ends { e with queue := rest } i ev e'.standing := by
  obtain ⟨ev, e₁, hbackdrop, hends, hafter, hstanding⟩ := processNext_spec hqueue hnext
  have hown₁ : e₁.own = e.own := congrArg Backdrop.own hbackdrop
  obtain ⟨own, journal, source, wallet, now, hown', htell⟩ :=
    hquiet ev e₁ (by rw [hown₁]; exact hown)
  rw [htell] at hafter hstanding
  have hown₂ : e'.own = own := congrArg Backdrop.own hafter
  refine ⟨by rw [hown₂]; exact hown', ?_, ?_, ?_, ev, ?_⟩
  · exact (congrArg Backdrop.queue hafter).trans (congrArg Backdrop.queue hbackdrop)
  · exact (congrArg Backdrop.listening hafter).trans (congrArg Backdrop.listening hbackdrop)
  · exact (congrArg Backdrop.refuses hafter).trans (congrArg Backdrop.refuses hbackdrop)
  · rw [hstanding]
    exact hends

end Quiet

/-! ## Listeners that write no path -/

/-- The paths that the browser and the engine know are the same, and the engine is on the same
one. -/
def Untouched (e e' : Engine ω) : Prop :=
  e'.history.entries = e.history.entries ∧ e'.standing.trail = e.standing.trail

theorem Untouched.trans {e₁ e₂ e₃ : Engine ω} (h₁ : Untouched e₁ e₂) (h₂ : Untouched e₂ e₃) :
    Untouched e₁ e₃ :=
  ⟨h₂.1.trans h₁.1, h₂.2.trans h₁.2⟩

/-- Those who listen write no path anywhere. They may move the browser and submit intents. -/
def Harmless (tell : Event → Engine ω → Engine ω) : Prop :=
  ∀ ev e, Untouched e (tell ev e)

theorem reportSuperseded_harmless (htell : Harmless tell) (new : Intent) (olds : List Intent)
    (e : Engine ω) : Untouched e (reportSuperseded tell new e olds) := by
  induction olds generalizing e with
  | nil => exact ⟨rfl, rfl⟩
  | cons old olds ih =>
    unfold reportSuperseded
    exact (htell (.superseded old new)
      (e.resolve old.generation (.event (.superseded old new)))).trans (ih _)

theorem submit_harmless (htell : Harmless tell) (e : Engine ω) (path : String) (trigger : Trigger)
    (replace : Bool) (index : Option Int) :
    Untouched e (e.submit tell path trigger replace index).2 := by
  have hreport := reportSuperseded_harmless htell (e.newIntent path trigger replace index)
    (e.queue.filter fun old => supersedes (e.newIntent path trigger replace index) old)
    { e with
      generation := e.generation + 1
      queue := e.queue.filter fun old => !supersedes (e.newIntent path trigger replace index) old }
  exact ⟨hreport.1, hreport.2⟩

theorem travel_harmless (htell : Harmless tell) (e : Engine ω) (t : Trigger) :
    Untouched e (e.travel tell t).2 := by
  unfold travel
  split
  · exact ⟨rfl, rfl⟩
  · rename_i h hmove
    have hentries : h.entries = e.history.entries := (History.move?_spec hmove).2.1
    have hmoved : Untouched e { e with history := h } := ⟨hentries, rfl⟩
    dsimp only
    split_ifs
    · exact hmoved.trans (submit_harmless htell { e with history := h } h.current t false
        (some h.index))
    · exact hmoved

end Engine

end Waypost.Browser
