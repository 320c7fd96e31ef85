import Mathlib.Data.List.Range
import Waypost.Proofs.Browser.Audience
import Waypost.Proofs.Browser.Chronicle
import Waypost.Proofs.Browser.Lasting
import Waypost.Proofs.Keyed
import Waypost.Proofs.Route.Registration

/-!
# Every intent ends once

An intent ends when it is superseded, or when its turn comes and it is settled, blocked or fails.

* `Event.isFinal` : an event that an intent ends with; `finalsOf` : those of a generation;
* `Accounts waiting e` : the generations handed out are those of the intents in `waiting` and of the
  events of the chronicle, each of them once, and the outcomes are what the chronicle says;
* `Accounts.report` : reporting the end of an intent moves it from the one to the other;
* `lasting_accounts` : the waiting intents are accounted for along every smooth run;
* `Open`, `Closed` : what a run has come to for one generation; `run_ends_once` : it is one of the
  two for each.
-/

namespace Waypost.Browser

open Access Time

/-- Whether an intent ends with an event. -/
def Event.isFinal : Event → Bool
  | .settled .. | .blocked .. | .failed .. | .superseded .. => true
  | .viewLoaded .. | .viewLoadFailed .. => false

/-- The events among these that an intent of a generation ends with. -/
def finalsOf (g : Nat) (events : List Event) : List Event :=
  events.filter fun ev => ev.isFinal && ev.intent.generation == g

theorem finalsOf_eq_nil {g : Nat} {events : List Event}
    (h : g ∉ events.map fun ev => ev.intent.generation) :
    finalsOf g events = [] := by
  refine List.filter_eq_nil_iff.mpr fun ev hev hkept => h ?_
  rw [Bool.and_eq_true, beq_iff_eq] at hkept
  rw [← hkept.2]
  exact List.mem_map_of_mem hev

theorem finalsOf_of_mem {ev : Event} {events : List Event} (hfinal : ∀ ev ∈ events, ev.isFinal)
    (hnodup : (events.map fun ev => ev.intent.generation).Nodup) (h : ev ∈ events) :
    finalsOf ev.intent.generation events = [ev] := by
  induction events with
  | nil => cases h
  | cons first events ih =>
    obtain ⟨hfresh, hrest⟩ := List.nodup_cons.mp hnodup
    unfold finalsOf
    rcases List.mem_cons.mp h with rfl | h
    · rw [List.filter_cons_of_pos (by simp [hfinal ev List.mem_cons_self])]
      exact congrArg (ev :: ·) (finalsOf_eq_nil hfresh)
    · have hother : first.intent.generation ≠ ev.intent.generation := by
        intro heq
        exact hfresh (List.mem_map.mpr ⟨ev, h, heq.symm⟩)
      rw [List.filter_cons_of_neg (by simp [hother])]
      exact ih (fun ev' hev' => hfinal ev' (List.mem_cons_of_mem first hev')) hrest h

namespace Engine

variable {ω : Type} {tell : Event → Engine ω → Engine ω} {P : ω → Prop}

/-- An intent ends with a final event of its own. -/
theorem Ends.isFinal {e : Engine ω} {i : Intent} {ev : Event} {s : Standing}
    (hends : Ends e i ev s) :
    ev.isFinal ∧ ev.intent = i := by
  cases hends with
  | settled hview hread hguard hwrite => exact ⟨rfl, rfl⟩
  | unwritten err hpermits hinner hwrite => exact ⟨rfl, rfl⟩
  | refused hrefusal hturned =>
    cases hrefusal with
    | unknown hview => cases hturned <;> exact ⟨rfl, rfl⟩
    | denied hview hread hguard => cases hturned <;> exact ⟨rfl, rfl⟩

/-! ## Accounts -/

/-- The generations handed out are those of the waiting intents and of the events that were told,
each of them once; the outcomes are the events that were told. -/
structure Accounts (P : ω → Prop) (waiting : List Intent) (e : Engine (ω × List Event)) : Prop where
  own : P e.own.1
  final : ∀ ev ∈ e.own.2, ev.isFinal
  split : (waiting.map Intent.generation ++ e.own.2.map fun ev => ev.intent.generation).Perm
    (List.range' 1 e.generation)
  outcomes : e.outcomes = e.own.2.map fun ev => (ev.intent.generation, .event ev)

variable {waiting : List Intent} {e e' : Engine (ω × List Event)}

theorem Accounts.keys_outcomes (h : Accounts P waiting e) :
    Keyed.keys e.outcomes = e.own.2.map fun ev => ev.intent.generation := by
  rw [h.outcomes, Keyed.keys, List.map_map]
  rfl

/-- Reporting the end of a waiting intent moves it to those that have ended. -/
theorem Accounts.report {old : Intent} {ev : Event} (h : Accounts P (old :: waiting) e)
    (hfinal : ev.isFinal) (hintent : ev.intent = old) (hown : P e'.own.1)
    (htold : e'.own.2 = e.own.2 ++ [ev])
    (houtcomes : e'.outcomes = Keyed.putNew old.generation (.event ev) e.outcomes)
    (hgeneration : e'.generation = e.generation) : Accounts P waiting e' := by
  have hnodup := h.split.nodup_iff.mpr List.nodup_range'
  rw [List.map_cons, List.cons_append, List.nodup_cons] at hnodup
  -- The intent has not ended before, so its wait is still open.
  have hfresh : old.generation ∉ Keyed.keys e.outcomes := by
    rw [h.keys_outcomes]
    exact fun hmem => hnodup.1 (List.mem_append_right _ hmem)
  refine ⟨hown, ?_, ?_, ?_⟩
  · rw [htold]
    intro ev' hev'
    rcases List.mem_append.mp hev' with hev' | hev'
    · exact h.final ev' hev'
    · rw [List.mem_singleton.mp hev']
      exact hfinal
  · rw [htold, hgeneration, List.map_append, List.map_singleton, hintent, ← List.append_assoc]
    exact (List.perm_append_singleton _ _).trans h.split
  · rw [houtcomes, Keyed.putNew_of_notMem hfresh, htold, List.map_append, ← h.outcomes,
      List.map_singleton, hintent]

theorem reportSuperseded_accounts (hquiet : QuietOn P tell) (new : Intent) (olds : List Intent)
    (h : Accounts P (olds ++ waiting) e) :
    Accounts P waiting (reportSuperseded (chronicled tell) new e olds) := by
  induction olds generalizing e with
  | nil => exact h
  | cons old olds ih =>
    unfold reportSuperseded
    dsimp only
    apply ih
    obtain ⟨own, journal, source, wallet, now, hown, htell⟩ := hquiet (.superseded old new)
      (e.resolve old.generation (.event (.superseded old new))).forget h.own
    refine h.report (show (Event.superseded old new).isFinal from rfl) rfl ?_ rfl ?_ ?_
    · unfold chronicled
      rw [htell]
      exact hown
    · unfold chronicled
      rw [htell]
      rfl
    · unfold chronicled
      rw [htell]
      rfl

/-! ## Steps -/

/-- A new intent waits; those that it supersedes have ended. -/
theorem submit_accounts (hquiet : QuietOn P tell) (h : Accounts P e.queue e) (path : String)
    (trigger : Trigger) (replace : Bool) (index : Option Int) :
    Accounts P (e.submit (chronicled tell) path trigger replace index).2.queue
      (e.submit (chronicled tell) path trigger replace index).2 := by
  generalize hnew : e.newIntent path trigger replace index = new
  have hgeneration : new.generation = 1 + e.generation := by
    rw [← hnew, Nat.add_comm]
    rfl
  have hparts : (e.queue.filter (supersedes new) ++ e.queue.filter fun old =>
      !supersedes new old).Perm e.queue :=
    List.filter_append_perm (supersedes new) e.queue
  -- The new intent counts as waiting before the old ones are reported.
  have hbefore : Accounts P
      (e.queue.filter (supersedes new) ++
        ((e.queue.filter fun old => !supersedes new old) ++ [new]))
      { e with
        generation := e.generation + 1
        queue := e.queue.filter fun old => !supersedes new old } := by
    refine ⟨h.own, h.final, ?_, h.outcomes⟩
    rw [List.range'_1_concat, ← List.append_assoc, List.map_append, List.map_singleton, hgeneration]
    have hold : ((e.queue.map Intent.generation ++ [1 + e.generation]) ++
        e.own.2.map fun ev => ev.intent.generation).Perm (List.range' 1 e.generation ++
          [1 + e.generation]) := by
      refine List.Perm.trans ?_ (h.split.append_right _)
      rw [List.append_assoc, List.append_assoc]
      exact List.perm_append_comm.append_left _
    exact (((hparts.map Intent.generation).append_right _).append_right _).trans hold
  have hafter := reportSuperseded_accounts hquiet new _ hbefore
  obtain ⟨own, journal, source, wallet, now, outcomes, -, hreport⟩ :=
    reportSuperseded_quiet (chronicled_quietOn hquiet) new (e.queue.filter (supersedes new))
      { e with
        generation := e.generation + 1
        queue := e.queue.filter fun old => !supersedes new old } h.own
  have hsubmit : (e.submit (chronicled tell) path trigger replace index).2.queue =
      (e.queue.filter fun old => !supersedes new old) ++ [new] := by
    subst hnew
    exact congrArg (fun r : Engine (ω × List Event) =>
      r.queue ++ [e.newIntent path trigger replace index]) hreport
  rw [hsubmit]
  subst hnew
  exact ⟨hafter.own, hafter.final, hafter.split, hafter.outcomes⟩

theorem travel_accounts (hquiet : QuietOn P tell) (h : Accounts P e.queue e) (t : Trigger) :
    Accounts P (e.travel (chronicled tell) t).2.queue (e.travel (chronicled tell) t).2 := by
  unfold travel
  split
  · exact h
  · rename_i moved hmove
    have hmoved : Accounts P e.queue { e with history := moved } :=
      ⟨h.own, h.final, h.split, h.outcomes⟩
    dsimp only
    split_ifs
    · exact submit_accounts hquiet hmoved moved.current t false (some moved.index)
    · exact hmoved

/-- The first waiting intent ends in its turn. -/
theorem processNext_accounts (hquiet : QuietOn P tell) {i : Intent} {rest : List Intent}
    (h : Accounts P e.queue e) (hqueue : e.queue = i :: rest)
    (hnext : e.processNext (chronicled tell) = some (.ok (), e')) :
    Accounts P e'.queue e' := by
  obtain ⟨ev, e₁, hbackdrop, hends, hafter, -⟩ := processNext_spec hqueue hnext
  obtain ⟨hfinal, hintent⟩ := hends.isFinal
  have hown : e₁.own = e.own := congrArg Backdrop.own hbackdrop
  obtain ⟨own, journal, source, wallet, now, hown', htell⟩ := hquiet ev e₁.forget (by
    rw [show e₁.forget.own = e₁.own.1 from rfl, hown]
    exact h.own)
  have htold : chronicled tell ev e₁ =
      { e₁ with own := (own, e₁.own.2 ++ [ev]), journal, source, wallet, now } := by
    unfold chronicled
    rw [htell]
    rfl
  rw [htold] at hafter
  have hqueue' : e'.queue = rest :=
    (congrArg Backdrop.queue hafter).trans (congrArg Backdrop.queue hbackdrop)
  have hown₂ : e'.own = (own, e₁.own.2 ++ [ev]) := congrArg Backdrop.own hafter
  rw [hqueue] at h
  rw [hqueue']
  refine h.report hfinal hintent ?_ ?_ ?_ ?_
  · rw [hown₂]
    exact hown'
  · rw [hown₂, hown]
  · refine (congrArg Backdrop.outcomes hafter).trans ?_
    exact congrArg (Keyed.putNew i.generation (.event ev)) (congrArg Backdrop.outcomes hbackdrop)
  · exact (congrArg Backdrop.generation hafter).trans (congrArg Backdrop.generation hbackdrop)

/-- The waiting intents and the events that were told account for all that was submitted, as long as
no turn faults. -/
theorem lasting_accounts (hquiet : QuietOn P tell) :
    Lasting (chronicled tell) (fun _ => True)
      (fun i e => ∃ ev, (process (chronicled tell) e i).1 = .ok ev)
      fun e => Accounts P e.queue e where
  submit := fun h _ => submit_accounts hquiet h _ _ _ _
  travel := fun t h => travel_accounts hquiet h t
  credential := fun _ _ h => ⟨h.own, h.final, h.split, h.outcomes⟩
  clock := fun _ h => ⟨h.own, h.final, h.split, h.outcomes⟩
  next := by
    rintro e e' i rest r h hqueue ⟨ev, hevent⟩ hnext
    rcases processNext_eq (chronicled tell) hqueue with ⟨-, e₁, -, hok⟩ | ⟨f, e₁, hfault, -⟩
    · rw [hnext] at hok
      obtain ⟨rfl, -⟩ := Prod.mk.inj (Option.some.inj hok)
      exact processNext_accounts hquiet h hqueue hnext
    · rw [hfault] at hevent
      cases hevent

/-- Nobody adds to the queue, so dealing with as many intents as wait leaves none. -/
theorem queue_processFor {tell : Event → Engine ω → Engine ω} (hquiet : QuietOn P tell)
    (fuel n : Nat) {e : Engine ω} (hown : P e.own) (hfuel : e.queue.length ≤ fuel) {m : Nat}
    (hok : (processFor tell fuel n e).1 = .ok m) :
    (processFor tell fuel n e).2.queue = [] := by
  induction fuel generalizing n e with
  | zero => exact List.eq_nil_of_length_eq_zero (Nat.le_zero.mp hfuel)
  | succ fuel ih =>
    unfold processFor at hok ⊢
    split
    · rename_i hnext
      cases hqueue : e.queue with
      | nil => rfl
      | cons i rest =>
        rcases processNext_eq tell hqueue with ⟨-, e₁, -, hsome⟩ | ⟨f, e₁, -, hsome⟩ <;>
        · rw [hsome] at hnext
          cases hnext
    · rename_i hnext
      rw [hnext] at hok
      cases hok
    · rename_i e' hnext
      rw [hnext] at hok
      obtain ⟨i, rest, hqueue⟩ := exists_cons_of_processNext hnext
      obtain ⟨hown', hqueue', -⟩ := processNext_quiet hquiet hown hqueue hnext
      refine ih (n + 1) hown' ?_ hok
      rw [hqueue', ← Nat.add_le_add_iff_right, ← List.length_cons, ← hqueue]
      exact hfuel

/-! ## Runs -/

/-- An intent of a generation waits, and nothing has been heard of it. -/
def Open (events : List Event) (e : Engine ω) (g : Nat) : Prop :=
  g ∈ e.queue.map Intent.generation ∧ finalsOf g events = [] ∧ Keyed.get? g e.outcomes = none

/-- An intent of a generation waits no more; it has ended with one event, and that is how the wait
for it has ended. -/
def Closed (events : List Event) (e : Engine ω) (g : Nat) : Prop :=
  g ∉ e.queue.map Intent.generation ∧ ∃ ev, finalsOf g events = [ev] ∧
    Keyed.get? g e.outcomes = some (.event ev)

theorem Accounts.open_or_closed (h : Accounts P e.queue e) {g : Nat}
    (hg : g ∈ List.range' 1 e.generation) :
    Open e.own.2 e g ∨ Closed e.own.2 e g := by
  obtain ⟨-, hnodup, hdisjoint⟩ := List.nodup_append.mp (h.split.nodup_iff.mpr List.nodup_range')
  rcases List.mem_append.mp (h.split.mem_iff.mpr hg) with hwaits | hended
  · have hfresh : g ∉ e.own.2.map fun ev => ev.intent.generation :=
      fun hmem => hdisjoint g hwaits g hmem rfl
    refine Or.inl ⟨hwaits, finalsOf_eq_nil hfresh, Keyed.get?_eq_none_iff.mpr ?_⟩
    rw [h.keys_outcomes]
    exact hfresh
  · obtain ⟨ev, hev, rfl⟩ := List.mem_map.mp hended
    refine Or.inr ⟨fun hmem => hdisjoint _ hmem _ hended rfl, ev,
      finalsOf_of_mem h.final hnodup hev, ?_⟩
    refine Keyed.get?_of_mem ?_ ?_
    · rw [h.keys_outcomes]
      exact hnodup
    · rw [h.outcomes]
      exact List.mem_map_of_mem hev

theorem Accounts.mem_range (h : Accounts P e.queue e) {g : Nat}
    (hg : g ∈ e.queue.map Intent.generation ∨ finalsOf g e.own.2 ≠ []) :
    g ∈ List.range' 1 e.generation := by
  rw [← h.split.mem_iff, List.mem_append]
  refine hg.imp_right fun hheard => ?_
  by_contra hfresh
  exact hheard (finalsOf_eq_nil hfresh)

theorem smooth_append {steps more : List Step} {e : Engine ω} {tell : Event → Engine ω → Engine ω} :
    Smooth tell e (steps ++ more) ↔ Smooth tell e steps ∧ Smooth tell (run tell e steps) more := by
  induction steps generalizing e with
  | nil => simp [Smooth, run]
  | cons s steps ih =>
    rw [List.cons_append, Smooth, Smooth, ih, run, and_assoc]

theorem run_append (tell : Event → Engine ω → Engine ω) (e : Engine ω) (steps more : List Step) :
    run tell e (steps ++ more) = run tell (run tell e steps) more := by
  induction steps generalizing e with
  | nil => rfl
  | cons s steps ih => rw [List.cons_append, run, ih, run]

/-- The chronicle of a smooth run from a fresh engine accounts for all that was submitted. -/
theorem run_accounts (hquiet : QuietOn P tell) {e : Engine ω} (hown : P e.own)
    (hqueue : e.queue = []) (hfresh : e.generation = 0) (hopen : e.outcomes = [])
    {steps : List Step} (hsmooth : Smooth tell e steps) :
    Accounts P (run (chronicled tell) e.enroll steps).queue
      (run (chronicled tell) e.enroll steps) := by
  have hchronicled : Smooth (chronicled tell) e.enroll steps :=
    (smooth_forget tell e.enroll steps).mpr hsmooth
  have hstart : Accounts P e.enroll.queue e.enroll := by
    refine ⟨hown, fun ev hev => (List.not_mem_nil hev).elim, ?_, hopen⟩
    rw [show e.enroll.queue = e.queue from rfl, hqueue, show e.enroll.generation = e.generation
      from rfl, hfresh]
    exact List.Perm.refl []
  exact (lasting_accounts hquiet).run hstart (fun _ _ => trivial) fun i e' hhandles =>
    hchronicled.handles hhandles

/-- After all that wait have had their turn, none waits. -/
theorem queue_run_process (hquiet : QuietOn P tell) {e : Engine ω} {before : List Step} {more : Nat}
    (hown : P (run tell e before).own) (hsmooth : Smooth tell e (before ++ [.process more])) :
    (run tell e (before ++ [.process more])).queue = [] := by
  obtain ⟨-, hlast, -⟩ := smooth_append.mp hsmooth
  rw [run_append]
  cases hresult : ((run tell e before).processPending tell more).1 with
  | error f =>
    rw [perform, hresult] at hlast
    cases hlast
  | ok m => exact queue_processFor hquiet _ 0 hown (Nat.le_add_right _ more) hresult

/-- After every smooth run of an engine that has had no intents, those that it was given are
numbered from one on. Each of them waits and nothing has been heard of it, or waits no more and has
ended with exactly one event, which is what the wait for it has come to. No number waits twice,
nothing is heard of other numbers, and none waits after all have had their turn. -/
theorem run_ends_once (hquiet : QuietOn P tell) (e : Engine ω) (hown : P e.own)
    (hqueue : e.queue = []) (hfresh : e.generation = 0) (hopen : e.outcomes = [])
    (steps : List Step) (hsmooth : Smooth tell e steps) :
    (∀ g, 1 ≤ g → g ≤ (run tell e steps).generation →
        Open (eventsOf tell e steps) (run tell e steps) g ∨
          Closed (eventsOf tell e steps) (run tell e steps) g) ∧
      (∀ g, g ∈ (run tell e steps).queue.map Intent.generation ∨
        finalsOf g (eventsOf tell e steps) ≠ [] → 1 ≤ g ∧ g ≤ (run tell e steps).generation) ∧
      ((run tell e steps).queue.map Intent.generation).Nodup ∧
      ∀ before more, steps = before ++ [.process more] → (run tell e steps).queue = [] := by
  have haccounts := run_accounts hquiet hown hqueue hfresh hopen hsmooth
  refine ⟨?_, ?_, ?_, ?_⟩
  · rw [run_eq_forget]
    intro g hfirst hlast
    exact haccounts.open_or_closed (List.mem_range'_1.mpr ⟨hfirst, Nat.lt_one_add_iff.mpr hlast⟩)
  · rw [run_eq_forget]
    intro g hg
    obtain ⟨hfirst, hlast⟩ := List.mem_range'_1.mp (haccounts.mem_range hg)
    exact ⟨hfirst, Nat.lt_one_add_iff.mp hlast⟩
  · rw [run_eq_forget]
    exact (List.nodup_append.mp (haccounts.split.nodup_iff.mpr List.nodup_range')).1
  · rintro before more rfl
    have hbefore := run_accounts hquiet hown hqueue hfresh hopen (smooth_append.mp hsmooth).1
    refine queue_run_process hquiet ?_ hsmooth
    rw [run_eq_forget]
    exact hbefore.own

/-- A page in a browser that refuses every third write, with one who takes note of every event and
one who fails. -/
def troubledPage : Engine Audience where
  views :=
    [Route.Call.add "GET" "/" "home" .anonymous none,
      .add "GET" "/items" "items.list" .authenticated none].foldl
      Route.Table.perform .empty
  history := ⟨["/lost", "/items", "/"], 1⟩
  refuses := fun n _ => n % 3 == 0
  now := 0
  own := (({} : Audience).subscribe "view" .note 0).subscribe "careless" (.act none .fail) 4

/-- Intents that overtake one another, some with stamps that no move of the browser has given. -/
def hastyVisit : List Step :=
  [.submit "/" .userClick false none, .submit "/items" .programmatic true none, .travel .back,
    .next, .travel .forward, .submit "/" .userClick false none,
    .submit "/lost" .back false (some (-3)),
    .credential (.given (some ⟨"t", .authenticated, 10, "u"⟩)) {},
    .submit "/items" .userClick false none, .clock 10, .submit "/" .userClick true none, .process 0]

theorem run_ends_once_troubledPage :
    (∀ g, 1 ≤ g → g ≤ 8 →
        Closed (eventsOf tellAll troubledPage.start hastyVisit)
          (run tellAll troubledPage.start hastyVisit) g) ∧
      (run tellAll troubledPage.start hastyVisit).queue = [] := by
  have hpassive : troubledPage.own.Passive := by
    simp [Audience.Passive, troubledPage, Audience.subscribe, Listener.callsBack,
      Reaction.callsBack]
  have hsmooth : Smooth tellAll troubledPage.start hastyVisit :=
    ⟨rfl, rfl, rfl, rfl, rfl, rfl, rfl, rfl, rfl, rfl, rfl, rfl, trivial⟩
  have h := run_ends_once tellAll_quietOn troubledPage.start hpassive rfl rfl rfl hastyVisit hsmooth
  have hqueue : (run tellAll troubledPage.start hastyVisit).queue = [] :=
    h.2.2.2 (hastyVisit.take 11) 0 rfl
  refine ⟨fun g hfirst hlast => (h.1 g hfirst hlast).resolve_left fun hopen => ?_, hqueue⟩
  rw [Open, hqueue] at hopen
  exact List.not_mem_nil hopen.1

end Engine

end Waypost.Browser
