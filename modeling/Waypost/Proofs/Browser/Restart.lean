import Mathlib.Data.List.Induction
import Waypost.Proofs.Browser.Alignment
import Waypost.Proofs.Browser.Turns

/-!
# Starting again

An engine that is closed hears of no moves of the browser, and when it is started again it begins
where the browser is. What waits goes on to wait, however: a move that was reported before may be
out of date by then.

* `Meets` : a turn of a life deals with an intent; `Lasting.life` : what lasts along the steps lasts
  along a life;
* `Queued` : only the first intent that waits may tell of a move of the browser, and it says which
  (`life_queued`); `exists_start` : an engine that listens has been started and not been closed
  since;
* `Outdated` : a move settles that the browser has left; `Lost` : the browser's last move faults;
* `Resumed` : the engine listens and is level with the browser if no move of it waits, unless it has
  gone astray (`lasting_resumed`);
* `restart_level` : only moves that are lost, or that were out of date when the engine was started,
  lead it astray; `restart_astray` : one that was out of date does.
-/

namespace Waypost.Browser

open Access

namespace Engine

variable {ω : Type} {tell : Event → Engine ω → Engine ω} {P : ω → Prop}

/-! ## Lives -/

/-- A life comes to deal with `i`, with the engine as given last. -/
def Meets (tell : Event → Engine ω → Engine ω) (e : Engine ω) (turns : List Turn) (i : Intent)
    (e' : Engine ω) : Prop :=
  ∃ done s rest, turns = done ++ .step s :: rest ∧ Handles tell (life tell e done) [s] i e'

theorem Meets.later {e e' : Engine ω} {t : Turn} {turns : List Turn} {i : Intent}
    (h : Meets tell (take tell e t) turns i e') :
    Meets tell e (t :: turns) i e' := by
  obtain ⟨done, s, rest, rfl, hhandles⟩ := h
  exact ⟨t :: done, s, rest, rfl, hhandles⟩

/-- What lasts along the steps, and what the other turns keep, lasts along a life. -/
theorem Lasting.life {K : Step → Prop} {Q : Intent → Engine ω → Prop} {I : Engine ω → Prop}
    (h : Lasting tell K Q I) {turns : List Turn} (hkind : ∀ s, .step s ∈ turns → K s)
    (hother : ∀ t ∈ turns, (∀ s, t ≠ .step s) → ∀ e, I e → I (take tell e t)) {e : Engine ω}
    (he : I e) (hQ : ∀ i e', Meets tell e turns i e' → Q i e') : I (life tell e turns) := by
  induction turns generalizing e with
  | nil => exact he
  | cons t turns ih =>
    have hnow : I (take tell e t) := by
      by_cases hstep : ∃ s, t = .step s
      · obtain ⟨s, rfl⟩ := hstep
        refine h.perform he (hkind s List.mem_cons_self) [] fun i e' hhandles => ?_
        exact hQ i e' ⟨[], s, turns, rfl, hhandles⟩
      · exact hother t List.mem_cons_self (not_exists.mp hstep) e he
    exact ih (fun s hs => hkind s (List.mem_cons_of_mem t hs))
      (fun t' ht' => hother t' (List.mem_cons_of_mem t ht')) hnow
      fun i e' hmeets => hQ i e' hmeets.later

/-- A load that ends changes nothing that counts when nobody calls back. -/
theorem receive_quiet (hquiet : QuietOn P tell) {e : Engine ω} (hown : P e.own) (n : Nat)
    (result : Except Fault Json) :
    ∃ own journal source wallet now loads, P own ∧
      e.receive tell n result = { e with own, journal, source, wallet, now, loads } := by
  cases hload : e.loads[n]? with
  | none =>
    refine ⟨e.own, e.journal, e.source, e.wallet, e.now, e.loads, hown, ?_⟩
    unfold receive
    rw [hload]
  | some l =>
    rcases receive_cases tell e hload result with ⟨-, journal, hreceive⟩ | ⟨journal, hreceive⟩
    · obtain ⟨own, journal', source, wallet, now, hown', htell⟩ :=
        hquiet (viewEvent l.intent result) { e with journal } hown
      rw [hreceive, htell]
      exact ⟨own, journal', source, wallet, now, _, hown', rfl⟩
    · rw [hreceive]
      exact ⟨e.own, journal, e.source, e.wallet, e.now, _, hown, rfl⟩

/-! ## What waits -/

/-- Of the waiting intents only the first may tell of a move of the browser, and then it says where
that led. -/
structure Queued (P : ω → Prop) (listening : Bool) (e : Engine ω) : Prop where
  own : P e.own
  listens : e.listening = listening
  writable : ∀ n w, e.refuses n w = false
  inside : e.standing.Inside
  first : ∀ i rest, e.queue = i :: rest → InnerOnly rest
  stamped : ∀ i ∈ e.queue, i.trigger.isExternal → i.historyIndex.isSome

variable {listening : Bool}

/-- A new intent comes to wait behind what it does not supersede. -/
theorem first_enqueue {queue : List Intent} (h : ∀ i rest, queue = i :: rest → InnerOnly rest)
    (new : Intent) :
    ∀ i rest, (queue.filter fun old => !supersedes new old) ++ [new] = i :: rest →
      InnerOnly rest := by
  intro i rest hqueue
  by_cases houter : new.trigger.isExternal
  · simp only [supersedes_of_outer houter, Bool.not_true, List.filter_false,
      List.nil_append] at hqueue
    obtain ⟨-, rfl⟩ := List.cons.inj hqueue
    exact fun _ hj => absurd hj List.not_mem_nil
  · simp only [supersedes_of_inner houter, Bool.not_not] at hqueue
    have hnew : InnerOnly [new] := List.forall_mem_singleton.mpr houter
    cases queue with
    | nil =>
      obtain ⟨-, rfl⟩ := List.cons.inj hqueue
      exact fun _ hj => absurd hj List.not_mem_nil
    | cons j queue =>
      have hnone : (queue.filter fun old => old.trigger.isExternal) = [] :=
        List.filter_eq_nil_iff.mpr (h j queue rfl)
      rw [List.filter_cons, hnone] at hqueue
      split_ifs at hqueue
      · obtain ⟨-, rfl⟩ := List.cons.inj hqueue
        exact hnew
      · obtain ⟨-, rfl⟩ := List.cons.inj hqueue
        exact fun _ hj => absurd hj List.not_mem_nil

theorem submit_queued (hquiet : QuietOn P tell) {e : Engine ω} (h : Queued P listening e)
    (path : String) (trigger : Trigger) (replace : Bool) (index : Option Int) :
    Queued P listening (e.submit tell path trigger replace index).2 := by
  obtain ⟨own, journal, source, wallet, now, outcomes, hown, hsubmit⟩ :=
    submit_quiet hquiet e h.own path trigger replace index
  rw [hsubmit]
  refine ⟨hown, h.listens, h.writable, h.inside, first_enqueue h.first _, ?_⟩
  refine List.forall_mem_append.mpr ⟨fun i hi => h.stamped i (List.mem_filter.mp hi).1, ?_⟩
  refine List.forall_mem_singleton.mpr fun houter => ?_
  unfold newIntent at houter ⊢
  rw [if_pos houter]
  rfl

theorem travel_queued (hquiet : QuietOn P tell) {e : Engine ω} (h : Queued P listening e)
    (t : Trigger) : Queued P listening (e.travel tell t).2 := by
  unfold travel
  split
  · exact h
  · rename_i h' hmove
    obtain ⟨-, -, hinside⟩ := History.move?_spec hmove
    have hmoved : Queued P listening { e with history := h' } :=
      ⟨h.own, h.listens, h.writable, hinside h.inside, h.first, h.stamped⟩
    dsimp only
    split_ifs
    · exact submit_queued hquiet hmoved h'.current t false (some h'.index)
    · exact hmoved

theorem Ends.inside {e : Engine ω} {i : Intent} {ev : Event} {s : Standing} (hends : Ends e i ev s)
    (hinside : e.standing.Inside) : s.Inside := by
  cases hends with
  | settled hview hread hguard hwrite => exact Standing.inside_settled hinside
  | unwritten err hpermits hinner hwrite => exact hinside
  | refused hrefusal hturned =>
    cases hturned with
    | dismissed hinner => exact hinside
    | undone houter hundoing =>
      cases hundoing
      exact Standing.inside_corrected hinside
    | stranded houter hundoing => cases hundoing <;> exact hinside

theorem processNext_queued (hquiet : QuietOn P tell) {e e' : Engine ω} {r : Except Fault Unit}
    {i : Intent} {rest : List Intent} (h : Queued P listening e) (hqueue : e.queue = i :: rest)
    (hnext : e.processNext tell = some (r, e')) :
    Queued P listening e' := by
  obtain ⟨hown, hrefuses⟩ := processNext_refuses hquiet h.own hnext
  have hinner : InnerOnly rest := h.first i rest hqueue
  have hafter : e'.queue = rest ∧ e'.listening = e.listening ∧ e'.standing.Inside := by
    cases r with
    | error f =>
      obtain ⟨-, hbackdrop, hstanding⟩ := processNext_error hqueue hnext
      exact ⟨congrArg Backdrop.queue hbackdrop, congrArg Backdrop.listening hbackdrop,
        hstanding.symm ▸ h.inside⟩
    | ok u =>
      obtain ⟨-, hqueue', hlistening, -, ev, hends⟩ := processNext_quiet hquiet h.own hqueue hnext
      exact ⟨hqueue', hlistening, hends.inside h.inside⟩
  obtain ⟨hqueue', hlistening, hinside⟩ := hafter
  refine ⟨hown, hlistening.trans h.listens, by rw [hrefuses]; exact h.writable, hinside, ?_, ?_⟩
  · rw [hqueue']
    rintro j rest' rfl
    exact fun k hk => hinner k (List.mem_cons_of_mem j hk)
  · rw [hqueue']
    exact fun j hj houter => absurd houter (hinner j hj)

theorem lasting_queued (hquiet : QuietOn P tell) :
    Lasting tell (fun _ => True) (fun _ _ => True) (Queued P listening) where
  submit := fun h _ => submit_queued hquiet h _ _ _ _
  travel := fun t h => travel_queued hquiet h t
  credential := fun _ _ h => ⟨h.own, h.listens, h.writable, h.inside, h.first, h.stamped⟩
  clock := fun _ h => ⟨h.own, h.listens, h.writable, h.inside, h.first, h.stamped⟩
  next := fun h hqueue _ hnext => processNext_queued hquiet h hqueue hnext

theorem Queued.start {e : Engine ω} (h : Queued P listening e) : Queued P true e.start := by
  unfold Engine.start
  split_ifs with hlistens
  · exact ⟨h.own, hlistens, h.writable, h.inside, h.first, h.stamped⟩
  · exact ⟨h.own, rfl, h.writable, h.inside, h.first, h.stamped⟩

theorem Queued.close {e : Engine ω} (h : Queued P listening e) : Queued P false e.close := by
  obtain ⟨hbackdrop, hstanding⟩ := giveUpLoad_spec { e with listening := false }
  have hown : e.close.own = e.own := congrArg Backdrop.own hbackdrop
  have hqueue : e.close.queue = e.queue := congrArg Backdrop.queue hbackdrop
  have hrefuses : e.close.refuses = e.refuses := congrArg Backdrop.refuses hbackdrop
  have hsame : e.close.standing = e.standing := hstanding
  refine ⟨by rw [hown]; exact h.own, congrArg Backdrop.listening hbackdrop,
    by rw [hrefuses]; exact h.writable, by rw [hsame]; exact h.inside, ?_, ?_⟩
  · rw [hqueue]
    exact h.first
  · rw [hqueue]
    exact h.stamped

/-- Only starting and closing an engine change whether it listens. -/
theorem take_queued (hquiet : QuietOn P tell) {e : Engine ω} (h : Queued P listening e) {t : Turn}
    (ht : t.goesOn) : Queued P listening (take tell e t) := by
  cases t with
  | start => cases ht
  | close => cases ht
  | step s => exact (lasting_queued hquiet).perform h trivial [] fun _ _ _ => trivial
  | loaded n result =>
    rw [take]
    split_ifs
    · obtain ⟨own, journal, source, wallet, now, loads, hown, hreceive⟩ :=
        receive_quiet hquiet h.own n result
      rw [hreceive]
      exact ⟨hown, h.listens, h.writable, h.inside, h.first, h.stamped⟩
    · exact h
  | dropped n => exact ⟨h.own, h.listens, h.writable, h.inside, h.first, h.stamped⟩

theorem life_queued (hquiet : QuietOn P tell) {e : Engine ω} (h : Queued P listening e)
    (turns : List Turn) :
    ∃ listening, Queued P listening (life tell e turns) := by
  refine life_keeps (I := fun e => ∃ listening, Queued P listening e) (K := fun _ => True) ?_
    (fun _ _ => trivial) ⟨_, h⟩
  rintro e t - ⟨listening, h⟩
  cases t with
  | start => exact ⟨true, h.start⟩
  | close => exact ⟨false, h.close⟩
  | _ => exact ⟨listening, take_queued hquiet h rfl⟩

/-- An engine that listens has been started when it did not, and has not been closed since. -/
theorem exists_start (hquiet : QuietOn P tell) {e : Engine ω} (h : Queued P false e)
    (turns : List Turn) :
    Queued P false (life tell e turns) ∨
      ∃ before after, turns = before ++ .start :: after ∧ Queued P false (life tell e before) ∧
        .close ∉ after := by
  induction turns using List.reverseRecOn with
  | nil => exact Or.inl h
  | append_singleton turns t ih =>
    rw [life_concat]
    by_cases hclose : t = .close
    · obtain ⟨listening, hqueued⟩ := life_queued hquiet h turns
      subst hclose
      exact Or.inl hqueued.close
    rcases ih with hclosed | ⟨before, after, rfl, hclosed, hopen⟩
    · cases t with
      | start => exact Or.inr ⟨turns, [], rfl, hclosed, List.not_mem_nil⟩
      | close => exact absurd rfl hclose
      | _ => exact Or.inl (take_queued hquiet hclosed rfl)
    · refine Or.inr ⟨before, after ++ [t], by rw [List.append_assoc, List.cons_append], hclosed, ?_⟩
      simp [hopen, Ne.symm hclose]

/-! ## After a start -/

/-- A move of the browser settles that it has left meanwhile. -/
def Outdated (tell : Event → Engine ω → Engine ω) (e : Engine ω) (i : Intent) : Prop :=
  i.trigger.isExternal ∧ ¬ e.standing.Reports i ∧
    ∃ viewId params, (process tell e i).1 = .ok (.settled i viewId params)

/-- The move that brought the browser where it is faults, and nothing else will tell of it. -/
def Lost (tell : Event → Engine ω → Engine ω) (e : Engine ω) (i : Intent) : Prop :=
  e.standing.Reports i ∧ ∃ f, (process tell e i).1 = .error f

/-- The engine listens. A move that waits led to where the browser is, unless it is a late one. If
none such waits the engine is level with the browser, unless it has gone astray. -/
structure Resumed (P : ω → Prop) (Late : Intent → Prop) (Astray : Prop) (e : Engine ω) :
    Prop extends Queued P true e where
  current : ∀ i ∈ e.queue, i.trigger.isExternal → Late i ∨ e.standing.Reports i
  level : (∀ i ∈ e.queue, ¬ e.standing.Reports i) → Astray ∨ e.standing.Level

variable {Late : Intent → Prop} {Astray : Prop}

/-- What waits when the engine is started is late if it tells of a move that did not bring the
browser where it is. -/
theorem Queued.resumed {e : Engine ω} (h : Queued P false e)
    (hlate : ∀ i ∈ e.queue, i.trigger.isExternal → ¬ e.standing.Reports i → Late i) :
    Resumed P Late Astray e.start := by
  unfold Engine.start
  rw [if_neg (by simp [h.listens])]
  refine ⟨⟨h.own, rfl, h.writable, h.inside, h.first, h.stamped⟩, fun i hi houter => ?_,
    fun _ => Or.inr ⟨?_, rfl⟩⟩
  · exact or_iff_not_imp_right.mpr (hlate i hi houter)
  · simp [standing, Trail.start]

theorem submit_resumed (hquiet : QuietOn P tell) {e : Engine ω} (h : Resumed P Late Astray e)
    (path : String) {trigger : Trigger} (hinner : ¬ trigger.isExternal) (replace : Bool)
    (index : Option Int) :
    Resumed P Late Astray (e.submit tell path trigger replace index).2 := by
  have hqueued := submit_queued hquiet h.toQueued path trigger replace index
  obtain ⟨own, journal, source, wallet, now, outcomes, hown, hsubmit⟩ :=
    submit_quiet hquiet e h.own path trigger replace index
  rw [hsubmit] at hqueued ⊢
  refine ⟨hqueued, ?_, fun hnone => h.level fun i hi hreports => ?_⟩
  · refine List.forall_mem_append.mpr ⟨fun i hi => h.current i (List.mem_filter.mp hi).1, ?_⟩
    exact List.forall_mem_singleton.mpr fun houter => absurd houter hinner
  · -- A click supersedes no report.
    refine hnone i (List.mem_append_left _ (List.mem_filter.mpr ⟨hi, ?_⟩)) hreports
    rw [supersedes_of_inner hinner, hreports.1]
    rfl

theorem travel_resumed (hquiet : QuietOn P tell) {e : Engine ω} (h : Resumed P Late Astray e)
    (t : Trigger) : Resumed P Late Astray (e.travel tell t).2 := by
  have hqueued := travel_queued hquiet h.toQueued t
  unfold travel at hqueued ⊢
  split
  · exact h
  · rename_i h' hmove
    obtain ⟨houter, -, -⟩ := History.move?_spec hmove
    have hreports := reports_newIntent { e with history := h' } houter
    rw [hmove] at hqueued
    dsimp only at hqueued ⊢
    rw [if_pos h.listens] at hqueued ⊢
    obtain ⟨own, journal, source, wallet, now, outcomes, hown, hsubmit⟩ :=
      submit_quiet hquiet { e with history := h' } h.own h'.current t false (some h'.index)
    rw [hsubmit] at hqueued ⊢
    refine ⟨hqueued, ?_, fun hnone => ?_⟩
    · simp only [supersedes_of_outer hreports.1, Bool.not_true, List.filter_false, List.nil_append]
      exact List.forall_mem_singleton.mpr fun _ => Or.inr hreports
    · exact absurd hreports (hnone _ (List.mem_append_right _ (List.mem_singleton_self _)))

/-- An intent that ends leaves the engine level with the browser if it was so before or the intent
reports the browser's move, and goes astray otherwise only if it settles. -/
theorem Ends.resumed {e : Engine ω} {i : Intent} {ev : Event} {s : Standing} (hends : Ends e i ev s)
    (hwritable : ∀ n w, e.refuses n w = false) (hinside : e.standing.Inside)
    (hlevel : ¬ e.standing.Reports i → Astray ∨ e.standing.Level)
    (hsettled : i.trigger.isExternal → ¬ e.standing.Reports i →
      (∃ viewId params, ev = .settled i viewId params) → Astray) :
    Astray ∨ s.Level := by
  cases hends with
  | settled hview hread hguard hwrite =>
    by_cases hreports : e.standing.Reports i
    · exact Or.inr (Standing.level_settled hinside (Or.inl hreports))
    · by_cases houter : i.trigger.isExternal
      · exact Or.inl (hsettled houter hreports ⟨_, _, rfl⟩)
      · exact (hlevel hreports).imp_right fun hlevel =>
          Standing.level_settled hinside (Or.inr ⟨houter, hlevel⟩)
  | unwritten err hpermits hinner hwrite => exact absurd hwrite (by simp [hwritable])
  | refused hrefusal hturned =>
    cases hturned with
    | dismissed hinner => exact hlevel fun hreports => hinner hreports.1
    | undone houter hundoing =>
      cases hundoing with
      | done hat hwrite => exact Or.inr (Standing.level_undone hinside hat)
    | stranded houter hundoing =>
      cases hundoing with
      | left hat => exact hlevel fun hreports => hat hreports.2.1
      | unwritten hat hwrite => exact absurd hwrite (by simp [hwritable])

/-- The turn of an intent leaves the engine where dealing with the intent does. -/
theorem processNext_standing {e e' : Engine ω} {r : Except Fault Unit} {i : Intent}
    {rest : List Intent} (hqueue : e.queue = i :: rest)
    (hnext : e.processNext tell = some (r, e')) :
    e'.standing = (process tell { e with queue := rest } i).2.standing := by
  unfold processNext at hnext
  rw [hqueue] at hnext
  dsimp only at hnext
  split at hnext
  · rename_i f e₁ hprocess
    rw [hprocess]
    obtain ⟨-, rfl⟩ := Prod.mk.inj (Option.some.inj hnext)
    rfl
  · rename_i ev e₁ hprocess
    rw [hprocess]
    obtain ⟨-, rfl⟩ := Prod.mk.inj (Option.some.inj hnext)
    rfl

theorem processNext_resumed (hquiet : QuietOn P tell) {e e' : Engine ω} {r : Except Fault Unit}
    {i : Intent} {rest : List Intent} (h : Resumed P Late Astray e) (hqueue : e.queue = i :: rest)
    (hlost : Lost tell { e with queue := rest } i → Astray)
    (houtdated : Late i → Outdated tell { e with queue := rest } i → Astray)
    (hnext : e.processNext tell = some (r, e')) : Resumed P Late Astray e' := by
  have hqueued := processNext_queued hquiet h.toQueued hqueue hnext
  have hinner : InnerOnly rest := h.first i rest hqueue
  have hlevel : ¬ e.standing.Reports i → Astray ∨ e.standing.Level := by
    intro hreports
    refine h.level ?_
    rw [hqueue]
    exact List.forall_mem_cons.mpr ⟨hreports, fun j hj hj' => hinner j hj hj'.1⟩
  have hafter : e'.queue = rest ∧ (Astray ∨ e'.standing.Level) := by
    rcases processNext_eq tell hqueue with ⟨ev, e₁, hevent, hok⟩ | ⟨f, e₁, hfault, herror⟩
    · obtain ⟨rfl, rfl⟩ := Prod.mk.inj (Option.some.inj (hnext.symm.trans hok))
      obtain ⟨-, hqueue', -, -, -⟩ := processNext_quiet hquiet h.own hqueue hnext
      have hends := process_quiet hquiet (e := { e with queue := rest }) h.own hevent
      rw [← processNext_standing hqueue hnext] at hends
      refine ⟨hqueue', hends.resumed h.writable h.inside hlevel fun houter hreports hsettled => ?_⟩
      obtain ⟨viewId, params, rfl⟩ := hsettled
      have hlate := (h.current i (hqueue ▸ List.mem_cons_self) houter).resolve_right hreports
      exact houtdated hlate ⟨houter, hreports, viewId, params, hevent⟩
    · obtain ⟨rfl, rfl⟩ := Prod.mk.inj (Option.some.inj (hnext.symm.trans herror))
      obtain ⟨-, hbackdrop, hstanding⟩ := processNext_error hqueue hnext
      refine ⟨congrArg Backdrop.queue hbackdrop, ?_⟩
      by_cases hreports : e.standing.Reports i
      · exact Or.inl (hlost ⟨hreports, f, hfault⟩)
      · rw [hstanding]
        exact hlevel hreports
  refine ⟨hqueued, ?_, fun _ => hafter.2⟩
  rw [hafter.1]
  exact fun j hj houter => absurd houter (hinner j hj)

theorem lasting_resumed (hquiet : QuietOn P tell) :
    Lasting tell Honest (fun i e => (Lost tell e i → Astray) ∧
      (Late i → Outdated tell e i → Astray))
      (Resumed P Late Astray) where
  submit := fun h hinner => submit_resumed hquiet h _ hinner _ _
  travel := fun t h => travel_resumed hquiet h t
  credential :=
    fun _ _ h => ⟨⟨h.own, h.listens, h.writable, h.inside, h.first, h.stamped⟩, h.current, h.level⟩
  clock :=
    fun _ h => ⟨⟨h.own, h.listens, h.writable, h.inside, h.first, h.stamped⟩, h.current, h.level⟩
  next := fun h hqueue hQ hnext => processNext_resumed hquiet h hqueue hQ.1 hQ.2 hnext

theorem take_resumed (hquiet : QuietOn P tell) {e : Engine ω} (h : Resumed P Late Astray e)
    {t : Turn} (ht : ∀ s, t ≠ .step s) (hopen : t ≠ .close) :
    Resumed P Late Astray (take tell e t) := by
  cases t with
  | step s => exact absurd rfl (ht s)
  | start =>
    rw [take, Engine.start, if_pos h.listens]
    exact h
  | close => exact absurd rfl hopen
  | loaded n result =>
    have hqueued := take_queued hquiet h.toQueued (t := .loaded n result) rfl
    rw [take] at hqueued ⊢
    split_ifs at hqueued ⊢
    · obtain ⟨own, journal, source, wallet, now, loads, hown, hreceive⟩ :=
        receive_quiet hquiet h.own n result
      rw [hreceive] at hqueued ⊢
      exact ⟨hqueued, h.current, h.level⟩
    · exact h
  | dropped n => exact ⟨take_queued hquiet h.toQueued (t := .dropped n) rfl, h.current, h.level⟩

/-- A move of the browser that settles takes the engine to where the browser is exactly if it is the
one that brought the browser there. -/
theorem level_settled_iff {s : Standing} {i : Intent} (houter : i.trigger.isExternal)
    (hstamp : i.historyIndex.isSome) :
    (s.settled i).Level ↔ s.Reports i := by
  obtain ⟨index, hindex⟩ := Option.isSome_iff_exists.mp hstamp
  have hplace := Trail.moved_place s.trail s.offset index i.path
  unfold Standing.settled Standing.Level Standing.Reports
  rw [if_pos houter, hindex, Option.getD_some]
  dsimp only
  rw [hplace, Option.some_inj]
  exact ⟨fun h => ⟨houter, h⟩, fun h => h.2⟩

/-- An engine may be started and closed any number of times, and the browser may move meanwhile.
While it listens and nothing waits it is on the entry that the browser is on, unless since its last
start a move of the browser faulted, or one settled that had waited through the start and by then
had not led to where the browser was. A move that settles leaves the two on the same entry exactly
if it led to the browser's. -/
theorem restart_level (hquiet : QuietOn P tell) (e : Engine ω) (hclosed : e.listening = false)
    (hinside : e.history.index < e.history.length) (hqueue : e.queue = [])
    (hwritable : ∀ n w, e.refuses n w = false) (hown : P e.own) (turns : List Turn)
    (hhonest : ∀ s, .step s ∈ turns → Honest s) :
    ((life tell e turns).listening = true → (life tell e turns).queue = [] →
      ((life tell e turns).offset + (life tell e turns).trail.position =
        (life tell e turns).history.index ∧
          (life tell e turns).trail.currentPath = (life tell e turns).history.current) ∨
        ∃ before after i e', turns = before ++ .start :: after ∧
          (life tell e before).listening = false ∧ .close ∉ after ∧
          Meets tell (life tell e before).start after i e' ∧
          (Lost tell e' i ∨
            (i ∈ (life tell e before).queue ∧ ¬ (life tell e before).standing.Reports i ∧
              Outdated tell e' i))) ∧
      ∀ i e' viewId params, Meets tell e turns i e' → i.trigger.isExternal →
        (process tell e' i).1 = .ok (.settled i viewId params) →
        ((process tell e' i).2.standing.Level ↔ e'.standing.Reports i) := by
  have hnew : Queued P false e := by
    refine ⟨hown, hclosed, hwritable, hinside, fun i rest hwaits => ?_, fun i hi => ?_⟩
    · rw [hqueue] at hwaits
      cases hwaits
    · rw [hqueue] at hi
      cases hi
  refine ⟨fun hlistens hempty => ?_, ?_⟩
  · rcases exists_start hquiet hnew turns with hquit | ⟨before, after, rfl, hbefore, hopen⟩
    · rw [hquit.listens] at hlistens
      cases hlistens
    · -- What has gone astray is said of the turns since the start.
      let Late : Intent → Prop :=
        fun i => i ∈ (life tell e before).queue ∧ ¬ (life tell e before).standing.Reports i
      let Astray : Prop := ∃ i e', Meets tell (life tell e before).start after i e' ∧
        (Lost tell e' i ∨ (Late i ∧ Outdated tell e' i))
      have hstart : Resumed P Late Astray (life tell e before).start :=
        hbefore.resumed fun i hi _ hreports => ⟨hi, hreports⟩
      have hlife : life tell e (before ++ .start :: after) =
          life tell (life tell e before).start after := by
        rw [life, List.foldl_append]
        rfl
      have hafter : Resumed P Late Astray (life tell (life tell e before).start after) := by
        refine (lasting_resumed hquiet).life (fun s hs => ?_) (fun t ht hother e h => ?_) hstart
          fun i e' hmeets => ?_
        · exact hhonest s (List.mem_append_right _ (List.mem_cons_of_mem _ hs))
        · exact take_resumed hquiet h hother fun hclose => hopen (hclose ▸ ht)
        · exact ⟨fun hlost => ⟨i, e', hmeets, Or.inl hlost⟩,
            fun hlate hout => ⟨i, e', hmeets, Or.inr ⟨hlate, hout⟩⟩⟩
      rw [hlife] at hempty ⊢
      have hnone : ∀ i ∈ (life tell (life tell e before).start after).queue,
          ¬ (life tell (life tell e before).start after).standing.Reports i := by
        rw [hempty]
        exact fun i hi => (List.not_mem_nil hi).elim
      rcases hafter.level hnone with ⟨i, e', hmeets, hastray⟩ | hlevel
      · refine Or.inr ⟨before, after, i, e', rfl, hbefore.listens, hopen, hmeets,
          hastray.imp_right fun hlate => ?_⟩
        exact ⟨hlate.1.1, hlate.1.2, hlate.2⟩
      · exact Or.inl hlevel
  · rintro i e' viewId params ⟨done, s, rest, rfl, hhandles⟩ houter hsettled
    obtain ⟨listening, hqueued⟩ := life_queued hquiet hnew done
    obtain ⟨e₀, rest', h, hwaits, rfl⟩ :=
      (lasting_queued hquiet).handles hhandles hqueued (fun _ _ => trivial) fun _ _ _ => trivial
    have hends := process_quiet hquiet (e := { e₀ with queue := rest' }) h.own hsettled
    rw [hends.of_settled]
    exact level_settled_iff houter (h.stamped i (hwaits ▸ List.mem_cons_self) houter)

/-- A page that is opened on the second of two entries, both for everyone, with one who takes note
of every event. -/
def secondPage : Engine Audience where
  views :=
    [Route.Call.add "GET" "/" "home" .anonymous none,
      .add "GET" "/items" "items.list" .anonymous none].foldl
      Route.Table.perform .empty
  history := ⟨["/", "/items"], 1⟩
  now := 0
  own := ({} : Audience).subscribe "view" .note 0

theorem secondPage_passive : secondPage.own.Passive := by
  simp [Audience.Passive, secondPage, Audience.subscribe, Listener.callsBack]

/-- A move back, a move forward that nobody hears of, and a click after the second start. -/
def resumedVisit : List Turn :=
  [.start, .step (.travel .back), .step (.process 0), .close, .step (.travel .forward), .start,
    .step (.submit "/" .userClick false none), .step .next]

/-- Nothing has gone astray since the second start, so that engine and browser are on one entry. -/
theorem restart_level_resumedVisit :
    (life tellAll secondPage resumedVisit).offset +
      (life tellAll secondPage resumedVisit).trail.position =
        (life tellAll secondPage resumedVisit).history.index ∧
      (life tellAll secondPage resumedVisit).trail.currentPath =
        (life tellAll secondPage resumedVisit).history.current := by
  have hhonest : ∀ s, .step s ∈ resumedVisit → Honest s := by
    simp [resumedVisit, Honest, Trigger.isExternal]
  rcases (restart_level tellAll_quietOn secondPage rfl (by decide) rfl (fun _ _ => rfl)
    secondPage_passive resumedVisit hhonest).1 rfl rfl with
    hlevel | ⟨before, after, i, e', hsplit, -, hopen, ⟨done, s, rest, hafter, hhandles⟩, hastray⟩
  · exact hlevel
  · have hstart : (before = [] ∧ after = resumedVisit.drop 1) ∨
        (before = resumedVisit.take 5 ∧ after = resumedVisit.drop 6) := by
      simpa [resumedVisit, List.cons_eq_append_iff] using hsplit
    rcases hstart with ⟨rfl, rfl⟩ | ⟨rfl, rfl⟩
    · exact absurd (by simp [resumedVisit]) hopen
    · -- Nothing waits before this start, and the click that comes after it is no move of the
      -- browser.
      have hstep : (done = [] ∧ s = .submit "/" .userClick false none ∧ rest = [.step .next]) ∨
          (done = [.step (.submit "/" .userClick false none)] ∧ s = .next ∧ rest = []) := by
        simpa [resumedVisit, List.cons_eq_append_iff] using hafter
      have hclick : i.trigger = .userClick := by
        rcases hstep with ⟨rfl, rfl, -⟩ | ⟨rfl, rfl, -⟩
        · cases hhandles with
          | later hlater => cases hlater
        · cases hhandles with
          | next hqueue =>
            obtain ⟨rfl, -⟩ := List.cons.inj hqueue
            rfl
          | later hlater => cases hlater
      rcases hastray with ⟨hreports, -⟩ | ⟨hwaits, -⟩
      · exact absurd hreports.1 (by rw [hclick]; decide)
      · exact absurd hwaits List.not_mem_nil

/-- A move back that waits while the engine is closed, and a move forward that nobody hears of. -/
def unheardVisit : List Turn :=
  [.start, .step (.travel .back), .close, .step (.travel .forward), .start, .step (.process 0)]

/-- The move back settles after the second start, and nothing more waits; but the browser is not
where it led. -/
theorem restart_astray :
    secondPage.own.Passive ∧ (∀ s, .step s ∈ unheardVisit → Honest s) ∧
      (life tellAll secondPage unheardVisit).listening = true ∧
      (life tellAll secondPage unheardVisit).queue = [] ∧
      (life tellAll secondPage unheardVisit).offset +
        (life tellAll secondPage unheardVisit).trail.position ≠
        (life tellAll secondPage unheardVisit).history.index ∧
      (life tellAll secondPage unheardVisit).trail.currentPath ≠
        (life tellAll secondPage unheardVisit).history.current := by
  have hhonest : ∀ s, .step s ∈ unheardVisit → Honest s := by
    simp [unheardVisit, Honest, Trigger.isExternal]
  refine ⟨secondPage_passive, hhonest, rfl, rfl, ?_, ?_⟩
  · decide
  · decide

end Engine

end Waypost.Browser
