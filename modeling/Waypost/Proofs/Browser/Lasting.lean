import Waypost.Proofs.Browser.Run

/-!
# What lasts along a run

* `Lasting K Q I` : the steps from outside that `K` allows keep `I`, and so does dealing with an
  intent of which `Q` holds, whether the credential can be read or not;
* `Lasting.run` : then a run of such steps keeps `I`, if `Q` holds of all intents that it deals
  with;
* `Lasting.handles` : and `I` holds whenever the run comes to an intent;
* `Smooth.handles` : a smooth run ends every intent that it deals with;
* `process_quiet` : how an intent ends when nobody calls back; `handles_refuses` : the browser
  refuses the same writes all along.
-/

namespace Waypost.Browser.Engine

open Access Time

variable {ω : Type} {tell : Event → Engine ω → Engine ω} {P : ω → Prop}

/-- What the steps from outside that `K` allows keep, and dealing with an intent of which `Q`
holds. -/
structure Lasting (tell : Event → Engine ω → Engine ω) (K : Step → Prop)
    (Q : Intent → Engine ω → Prop) (I : Engine ω → Prop) : Prop where
  submit : ∀ {e path trigger replace index}, I e → K (.submit path trigger replace index) →
    I (e.submit tell path trigger replace index).2
  travel : ∀ {e} (t : Trigger), I e → I (e.travel tell t).2
  credential : ∀ {e} (source : Source) (wallet : Wallet), I e → I { e with source, wallet }
  clock : ∀ {e} (now : Instant), I e → I { e with now }
  next : ∀ {e e' i rest r}, I e → e.queue = i :: rest → Q i { e with queue := rest } →
    e.processNext tell = some (r, e') → I e'

variable {K : Step → Prop} {Q : Intent → Engine ω → Prop} {I : Engine ω → Prop}

namespace Lasting

theorem processFor (h : Lasting tell K Q I) (fuel n : Nat) {e : Engine ω} (he : I e)
    (hQ : ∀ i e', TakesUp tell fuel e i e' → Q i e') : I (processFor tell fuel n e).2 := by
  induction fuel generalizing n e with
  | zero => exact he
  | succ fuel ih =>
    have hstep : ∀ {r e'}, e.processNext tell = some (r, e') → I e' := by
      intro r e' hnext
      obtain ⟨i, rest, hqueue⟩ := exists_cons_of_processNext hnext
      exact h.next he hqueue (hQ i _ (.first hqueue)) hnext
    unfold Engine.processFor
    split
    · exact he
    · rename_i hnext
      exact hstep hnext
    · rename_i e' hnext
      exact ih (n + 1) (hstep hnext) fun i e'' htakes => hQ i e'' (.later hnext htakes)

theorem perform (h : Lasting tell K Q I) {e : Engine ω} (he : I e) {s : Step} (hs : K s)
    (steps : List Step) (hQ : ∀ i e', Handles tell e (s :: steps) i e' → Q i e') :
    I (e.perform tell s).2 := by
  cases s with
  | submit path trigger replace index => exact h.submit he hs
  | travel t => exact h.travel t he
  | next =>
    unfold Engine.perform
    cases hnext : e.processNext tell with
    | none => exact he
    | some result =>
      obtain ⟨r, e'⟩ := result
      obtain ⟨i, rest, hqueue⟩ := exists_cons_of_processNext hnext
      exact h.next he hqueue (hQ i _ (.next hqueue)) hnext
  | process more => exact h.processFor _ 0 he fun i e' htakes => hQ i e' (.process htakes)
  | credential source wallet => exact h.credential source wallet he
  | clock now => exact h.clock now he

theorem run (h : Lasting tell K Q I) {steps : List Step} {e : Engine ω} (he : I e)
    (hkind : ∀ s ∈ steps, K s) (hQ : ∀ i e', Handles tell e steps i e' → Q i e') :
    I (run tell e steps) := by
  induction steps generalizing e with
  | nil => exact he
  | cons s steps ih =>
    have hnow : I (e.perform tell s).2 := h.perform he (hkind s List.mem_cons_self) steps hQ
    exact ih hnow (fun s' hs' => hkind s' (List.mem_cons_of_mem s hs')) fun i e' hhandles =>
      hQ i e' (.later hhandles)

theorem takesUp (h : Lasting tell K Q I) {fuel : Nat} {e e' : Engine ω} {i : Intent}
    (htakes : TakesUp tell fuel e i e') (he : I e)
    (hQ : ∀ i e', TakesUp tell fuel e i e' → Q i e') :
    ∃ e₀ rest, I e₀ ∧ e₀.queue = i :: rest ∧ e' = { e₀ with queue := rest } := by
  induction htakes with
  | @first fuel e i rest hqueue => exact ⟨e, rest, he, hqueue, rfl⟩
  | @later fuel e e₁ e' i hnext hlater ih =>
    obtain ⟨j, rest, hqueue⟩ := exists_cons_of_processNext hnext
    have hnow : I e₁ := h.next he hqueue (hQ j _ (.first hqueue)) hnext
    exact ih hnow fun i e'' htakes => hQ i e'' (.later hnext htakes)

/-- What lasts holds when the run comes to an intent, just before it is taken from the queue. -/
theorem handles (h : Lasting tell K Q I) {steps : List Step} {e e' : Engine ω} {i : Intent}
    (hhandles : Handles tell e steps i e') (he : I e) (hkind : ∀ s ∈ steps, K s)
    (hQ : ∀ i e', Handles tell e steps i e' → Q i e') :
    ∃ e₀ rest, I e₀ ∧ e₀.queue = i :: rest ∧ e' = { e₀ with queue := rest } := by
  induction hhandles with
  | @next e i rest steps hqueue => exact ⟨e, rest, he, hqueue, rfl⟩
  | @process e e' more steps i htakes =>
    exact h.takesUp htakes he fun i e'' htakes' => hQ i e'' (.process htakes')
  | @later e e' s steps i hlater ih =>
    have hnow : I (e.perform tell s).2 := h.perform he (hkind s List.mem_cons_self) steps hQ
    exact ih hnow (fun s' hs' => hkind s' (List.mem_cons_of_mem s hs')) fun i e'' hhandles =>
      hQ i e'' (.later hhandles)

end Lasting

/-! ## Smooth runs -/

theorem processNext_eq (tell : Event → Engine ω → Engine ω) {e : Engine ω} {i : Intent}
    {rest : List Intent} (hqueue : e.queue = i :: rest) :
    (∃ ev e', (process tell { e with queue := rest } i).1 = .ok ev ∧
      e.processNext tell = some (.ok (), e')) ∨
      (∃ f e', (process tell { e with queue := rest } i).1 = .error f ∧
        e.processNext tell = some (.error f, e')) := by
  unfold processNext
  rw [hqueue]
  dsimp only
  cases process tell { e with queue := rest } i with
  | mk result e₁ =>
    cases result with
    | error f => exact Or.inr ⟨f, e₁, rfl, rfl⟩
    | ok ev => exact Or.inl ⟨ev, _, rfl, rfl⟩

/-- An intent whose turn does not fault is ended. -/
theorem exists_event_of_processNext {e : Engine ω} {i : Intent} {rest : List Intent}
    (hqueue : e.queue = i :: rest) (hok : ∀ f e', e.processNext tell ≠ some (.error f, e')) :
    ∃ ev, (process tell { e with queue := rest } i).1 = .ok ev := by
  rcases processNext_eq tell hqueue with ⟨ev, e', hevent, -⟩ | ⟨f, e', -, hnext⟩
  · exact ⟨ev, hevent⟩
  · exact absurd hnext (hok f e')

theorem TakesUp.exists_event {fuel : Nat} {e e' : Engine ω} {i : Intent}
    (htakes : TakesUp tell fuel e i e') {n m : Nat} (hok : (processFor tell fuel n e).1 = .ok m) :
    ∃ ev, (process tell e' i).1 = .ok ev := by
  induction htakes generalizing n with
  | @first fuel e i rest hqueue =>
    refine exists_event_of_processNext hqueue fun f e' hnext => ?_
    rw [processFor, hnext] at hok
    cases hok
  | @later fuel e e₁ e' i hnext hlater ih =>
    rw [processFor, hnext] at hok
    exact ih hok

/-- A smooth run ends every intent that it deals with. -/
theorem Smooth.handles {steps : List Step} {e e' : Engine ω} {i : Intent}
    (hhandles : Handles tell e steps i e') (hsmooth : Smooth tell e steps) :
    ∃ ev, (process tell e' i).1 = .ok ev := by
  induction hhandles with
  | @next e i rest steps hqueue =>
    refine exists_event_of_processNext hqueue fun f e' hnext => ?_
    have hok := hsmooth.1
    rw [perform, hnext] at hok
    cases hok
  | @process e e' more steps i htakes =>
    have hok := hsmooth.1
    rw [perform] at hok
    cases hresult : (e.processPending tell more).1 with
    | error f =>
      rw [hresult] at hok
      cases hok
    | ok m => exact htakes.exists_event hresult
  | @later e e' s steps i hlater ih => exact ih hsmooth.2

/-! ## Listeners that do not call back -/

/-- An intent that is dealt with ends in one of its ways, and those who are told leave it at
that. -/
theorem process_quiet (hquiet : QuietOn P tell) {e : Engine ω} (hown : P e.own) {i : Intent}
    {ev : Event} (h : (process tell e i).1 = .ok ev) :
    Ends e i ev (process tell e i).2.standing := by
  rcases process_spec tell e i with
    ⟨f, e₁, hprocess, -, -, -⟩ | ⟨ev', e₁, hprocess, hbackdrop, hends⟩
  · rw [hprocess] at h
    cases h
  · rw [hprocess] at h ⊢
    obtain rfl := Except.ok.inj h
    have hown₁ : e₁.own = e.own := congrArg Backdrop.own hbackdrop
    obtain ⟨own, journal, source, wallet, now, -, htell⟩ :=
      hquiet ev' e₁ (by rw [hown₁]; exact hown)
    have hstanding : (closing ev' (tell ev' e₁)).standing = e₁.standing := by
      rw [(closing_spec ev' (tell ev' e₁)).2, htell]
      rfl
    rw [← hstanding] at hends
    exact hends

/-- Dealing with an intent leaves what belongs to those who listen in order, and the writes that the
browser refuses. -/
theorem processNext_refuses (hquiet : QuietOn P tell) {e e' : Engine ω} {r : Except Fault Unit}
    (hown : P e.own) (hnext : e.processNext tell = some (r, e')) :
    P e'.own ∧ e'.refuses = e.refuses := by
  obtain ⟨i, rest, hqueue⟩ := exists_cons_of_processNext hnext
  cases r with
  | error f =>
    obtain ⟨-, hbackdrop, -⟩ := processNext_error hqueue hnext
    have hown' : e'.own = e.own := congrArg Backdrop.own hbackdrop
    exact ⟨by rw [hown']; exact hown, congrArg Backdrop.refuses hbackdrop⟩
  | ok u =>
    obtain ⟨hown', -, -, hrefuses, -⟩ := processNext_quiet hquiet hown hqueue hnext
    exact ⟨hown', hrefuses⟩

theorem submit_refuses (hquiet : QuietOn P tell) {e : Engine ω} (hown : P e.own) (path : String)
    (trigger : Trigger) (replace : Bool) (index : Option Int) :
    P (e.submit tell path trigger replace index).2.own ∧
      (e.submit tell path trigger replace index).2.refuses = e.refuses := by
  obtain ⟨own, journal, source, wallet, now, outcomes, hown', hsubmit⟩ :=
    submit_quiet hquiet e hown path trigger replace index
  rw [hsubmit]
  exact ⟨hown', rfl⟩

/-- The browser refuses the same writes all along. -/
theorem lasting_refuses (hquiet : QuietOn P tell) (refuses : Nat → Write → Bool) :
    Lasting tell (fun _ => True) (fun _ _ => True) fun e => P e.own ∧ e.refuses = refuses where
  submit := by
    rintro e path trigger replace index ⟨hown, hsame⟩ -
    obtain ⟨hown', hrefuses⟩ := submit_refuses hquiet hown path trigger replace index
    exact ⟨hown', hrefuses.trans hsame⟩
  travel := by
    rintro e t ⟨hown, hsame⟩
    unfold travel
    split
    · exact ⟨hown, hsame⟩
    · rename_i h hmove
      dsimp only
      split_ifs
      · obtain ⟨hown', hrefuses⟩ :=
          submit_refuses hquiet (e := { e with history := h }) hown h.current t false (some h.index)
        exact ⟨hown', hrefuses.trans hsame⟩
      · exact ⟨hown, hsame⟩
  credential := fun _ _ h => h
  clock := fun _ h => h
  next := by
    rintro e e' i rest r ⟨hown, hsame⟩ - - hnext
    obtain ⟨hown', hrefuses⟩ := processNext_refuses hquiet hown hnext
    exact ⟨hown', hrefuses.trans hsame⟩

theorem handles_refuses (hquiet : QuietOn P tell) {steps : List Step} {e e' : Engine ω} {i : Intent}
    (hown : P e.own) (hhandles : Handles tell e steps i e') :
    P e'.own ∧ e'.refuses = e.refuses := by
  obtain ⟨e₀, rest, h, -, rfl⟩ :=
    (lasting_refuses hquiet e.refuses).handles hhandles ⟨hown, rfl⟩ (fun _ _ => trivial)
      fun _ _ _ => trivial
  exact h

end Waypost.Browser.Engine
