import Waypost.Proofs.Browser.Audience
import Waypost.Proofs.Browser.Chronicle
import Waypost.Proofs.Keyed

/-!
# What listeners leave alone

Listeners that call back may submit intents and move the browser, but they deal with none. So the
page that the engine is on stays, what has been loaded stays, and of the intents that wait no more
nothing new is heard.

* `Orderly e` : nothing has been heard of the intents that wait, and of those to come;
* `Aloof gs e e'` : what lies between `e` and `e'` is no more than this, and that intents of the
  generations `gs` have ended;
* `Steadfast tell` : telling of an event does no more than this; `submit_aloof`, `travel_aloof`,
  `tellAll_steadfast`.
-/

namespace Waypost.Browser.Engine

open Access

variable {ω : Type} {tell : Event → Engine ω → Engine ω}

/-- What an engine has of the data of views. -/
structure Shelf where
  loading : Bool
  loads : List Load
  loadGeneration : Nat

/-- The shelf of an engine. -/
def shelf (e : Engine ω) : Shelf :=
  ⟨e.loading, e.loads, e.loadGeneration⟩

/-! ## Generations -/

/-- A generation has been handed out and does not wait. -/
def Gone (e : Engine ω) (g : Nat) : Prop :=
  g ≤ e.generation ∧ ∀ i ∈ e.queue, i.generation ≠ g

/-- The waiting intents have been handed out, each with a generation of its own, and nothing has
been heard of them nor of those that are to come. -/
structure Orderly (e : Engine ω) : Prop where
  known : ∀ i ∈ e.queue, i.generation ≤ e.generation
  nodup : (e.queue.map Intent.generation).Nodup
  unheard : ∀ i ∈ e.queue, Keyed.get? i.generation e.outcomes = none
  ahead : ∀ g, e.generation < g → Keyed.get? g e.outcomes = none

/-- What has been heard of waits no more. -/
theorem Orderly.gone {e : Engine ω} (h : Orderly e) {g : Nat} {o : Outcome}
    (hheard : Keyed.get? g e.outcomes = some o) :
    Gone e g := by
  constructor
  · by_contra hahead
    rw [h.ahead g (Nat.not_le.mp hahead)] at hheard
    cases hheard
  · rintro i hi rfl
    rw [h.unheard i hi] at hheard
    cases hheard

theorem get?_resolve_of_ne (e : Engine ω) {g g' : Nat} (hne : g' ≠ g) (o : Outcome) :
    Keyed.get? g' (e.resolve g o).outcomes = Keyed.get? g' e.outcomes := by
  rw [show (e.resolve g o).outcomes = Keyed.putNew g o e.outcomes from rfl, Keyed.get?_putNew,
    if_neg hne.symm, Option.or_none]

theorem get?_resolve_self {e : Engine ω} {g : Nat} (h : Keyed.get? g e.outcomes = none)
    (o : Outcome) : Keyed.get? g (e.resolve g o).outcomes = some o := by
  rw [show (e.resolve g o).outcomes = Keyed.putNew g o e.outcomes from rfl, Keyed.get?_putNew,
    if_pos rfl, h, Option.none_or]

/-- The engine `e'` is where `e` is and has loaded what `e` has. Intents may have come to wait, and
others to wait no more; of those that did not wait, nothing new has been heard but of the
generations `gs`. -/
structure Aloof (gs : List Nat) (e e' : Engine ω) : Prop where
  shelf : e'.shelf = e.shelf
  path : e'.trail.currentPath = e.trail.currentPath
  generation : e.generation ≤ e'.generation
  queue : ∀ i ∈ e'.queue, i ∈ e.queue ∨ e.generation < i.generation
  outcomes : ∀ g, Gone e g → g ∉ gs → Keyed.get? g e'.outcomes = Keyed.get? g e.outcomes
  orderly : Orderly e → (∀ g ∈ gs, Gone e g) → Orderly e'

namespace Aloof

variable {gs gs' : List Nat} {e e₁ e₂ e₃ : Engine ω}

/-- Whatever else changes does not count. -/
theorem of_same (hshelf : e₂.shelf = e₁.shelf) (hpath : e₂.trail.currentPath = e₁.trail.currentPath)
    (hgeneration : e₂.generation = e₁.generation) (hqueue : e₂.queue = e₁.queue)
    (houtcomes : e₂.outcomes = e₁.outcomes) :
    Aloof [] e₁ e₂ where
  shelf := hshelf
  path := hpath
  generation := Nat.le_of_eq hgeneration.symm
  queue := fun i hi => Or.inl (hqueue ▸ hi)
  outcomes := fun g _ _ => by rw [houtcomes]
  orderly := by
    intro h _
    refine ⟨?_, ?_, ?_, ?_⟩
    · rw [hqueue, hgeneration]
      exact h.known
    · rw [hqueue]
      exact h.nodup
    · rw [hqueue, houtcomes]
      exact h.unheard
    · rw [hgeneration, houtcomes]
      exact h.ahead

theorem refl (e : Engine ω) : Aloof [] e e :=
  of_same rfl rfl rfl rfl rfl

theorem gone (h : Aloof gs e₁ e₂) {g : Nat} (hgone : Gone e₁ g) : Gone e₂ g := by
  refine ⟨Nat.le_trans hgone.1 h.generation, fun i hi => ?_⟩
  rcases h.queue i hi with hbefore | hlater
  · exact hgone.2 i hbefore
  · have hle := hgone.1
    omega

theorem trans (h₁ : Aloof gs e₁ e₂) (h₂ : Aloof gs' e₂ e₃) : Aloof (gs ++ gs') e₁ e₃ where
  shelf := h₂.shelf.trans h₁.shelf
  path := h₂.path.trans h₁.path
  generation := Nat.le_trans h₁.generation h₂.generation
  queue := by
    intro i hi
    rcases h₂.queue i hi with hi | hlater
    · exact h₁.queue i hi
    · exact Or.inr (Nat.lt_of_le_of_lt h₁.generation hlater)
  outcomes := by
    intro g hgone hnot
    rw [List.mem_append, not_or] at hnot
    exact (h₂.outcomes g (h₁.gone hgone) hnot.2).trans (h₁.outcomes g hgone hnot.1)
  orderly := by
    intro h hgone
    refine h₂.orderly (h₁.orderly h fun g hg => hgone g (List.mem_append_left _ hg)) fun g hg => ?_
    exact h₁.gone (hgone g (List.mem_append_right _ hg))

/-- Ending the wait for an intent. -/
theorem resolve (e : Engine ω) (g : Nat) (o : Outcome) : Aloof [g] e (e.resolve g o) where
  shelf := rfl
  path := rfl
  generation := Nat.le_refl _
  queue := fun _ hi => Or.inl hi
  outcomes := fun g' _ hnot => get?_resolve_of_ne e (List.mem_singleton.not.mp hnot) o
  orderly := by
    intro h hgone
    obtain ⟨hle, hwaits⟩ := hgone g (List.mem_singleton_self g)
    refine ⟨h.known, h.nodup, fun i hi => ?_, fun g' hahead => ?_⟩
    · rw [get?_resolve_of_ne e (hwaits i hi) o]
      exact h.unheard i hi
    · have hne : g' ≠ g := Nat.ne_of_gt (Nat.lt_of_le_of_lt hle hahead)
      rw [get?_resolve_of_ne e hne o]
      exact h.ahead g' hahead

end Aloof

/-- Telling of an event leaves alone what listeners have to leave alone. -/
def Steadfast (tell : Event → Engine ω → Engine ω) : Prop :=
  ∀ ev e, Aloof [] e (tell ev e)

/-! ## Calling back -/

theorem reportSuperseded_aloof (htell : Steadfast tell) (new : Intent) (olds : List Intent)
    (e : Engine ω) : Aloof (olds.map Intent.generation) e (reportSuperseded tell new e olds) := by
  induction olds generalizing e with
  | nil => exact Aloof.refl e
  | cons old olds ih =>
    have hresolve := Aloof.resolve e old.generation (.event (.superseded old new))
    exact hresolve.trans ((htell (.superseded old new) _).trans (ih _))

/-- The engine that a new intent is announced to: it has its number, and what it supersedes is out
of the queue. -/
def cleared (e : Engine ω) (new : Intent) : Engine ω :=
  { e with generation := e.generation + 1, queue := e.queue.filter fun old => !supersedes new old }

theorem mem_of_mem_cleared {e : Engine ω} {new i : Intent} (hi : i ∈ (e.cleared new).queue) :
    i ∈ e.queue :=
  (List.mem_filter.mp hi).1

/-- What does not wait does not wait either after the queue is cleared, and it was not cleared out
of it. -/
theorem Gone.cleared {e : Engine ω} {g : Nat} (h : Gone e g) (new : Intent) :
    Gone (e.cleared new) g ∧ g ∉ (e.queue.filter fun old => supersedes new old).map
      Intent.generation := by
  obtain ⟨hle, hwaits⟩ := h
  refine ⟨⟨Nat.le_succ_of_le hle, fun i hi => hwaits i (mem_of_mem_cleared hi)⟩, fun hmem => ?_⟩
  obtain ⟨old, hold, hg⟩ := List.mem_map.mp hmem
  exact hwaits old (List.mem_filter.mp hold).1 hg

namespace Orderly

variable {e : Engine ω}

theorem cleared (h : Orderly e) (new : Intent) : Orderly (e.cleared new) where
  known := fun i hi => Nat.le_succ_of_le (h.known i (mem_of_mem_cleared hi))
  nodup := h.nodup.sublist (List.filter_sublist.map Intent.generation)
  unheard := fun i hi => h.unheard i (mem_of_mem_cleared hi)
  ahead := fun g hahead => h.ahead g (Nat.lt_of_succ_lt hahead)

/-- What is cleared out of the queue waits no more. -/
theorem gone_of_superseded (h : Orderly e) {new : Intent} {g : Nat}
    (hg : g ∈ (e.queue.filter fun old => supersedes new old).map Intent.generation) :
    Gone (e.cleared new) g := by
  obtain ⟨old, hold, rfl⟩ := List.mem_map.mp hg
  obtain ⟨hwaits, hsuperseded⟩ := List.mem_filter.mp hold
  refine ⟨Nat.le_succ_of_le (h.known old hwaits), fun i hi hsame => ?_⟩
  obtain ⟨hi, hkept⟩ := List.mem_filter.mp hi
  obtain rfl := List.inj_on_of_nodup_map h.nodup hi hwaits hsame
  rw [hsuperseded] at hkept
  cases hkept

/-- The number of a new intent has not been used. -/
theorem gone_new (h : Orderly e) (new : Intent) : Gone (e.cleared new) (e.generation + 1) :=
  ⟨Nat.le_refl _, fun i hi => Nat.ne_of_lt (Nat.lt_succ_of_le (h.known i (mem_of_mem_cleared hi)))⟩

/-- An intent of which nothing has been heard may come to wait. -/
theorem enqueue (h : Orderly e) {new : Intent} (hgone : Gone e new.generation)
    (hheard : Keyed.get? new.generation e.outcomes = none) (trail : Trail) (signals : List Signal) :
    Orderly { e with queue := e.queue ++ [new], trail, signals } where
  known := List.forall_mem_append.mpr ⟨h.known, List.forall_mem_singleton.mpr hgone.1⟩
  nodup := by
    rw [List.map_append, List.map_singleton]
    refine h.nodup.append (List.nodup_singleton _) ?_
    rw [List.disjoint_singleton]
    intro hmem
    obtain ⟨i, hi, hsame⟩ := List.mem_map.mp hmem
    exact hgone.2 i hi hsame
  unheard := List.forall_mem_append.mpr ⟨h.unheard, List.forall_mem_singleton.mpr hheard⟩
  ahead := h.ahead

end Orderly

/-- Submitting an intent ends others only if they wait. -/
theorem submit_aloof (htell : Steadfast tell) (e : Engine ω) (path : String) (trigger : Trigger)
    (replace : Bool) (index : Option Int) :
    Aloof [] e (e.submit tell path trigger replace index).2 := by
  generalize hnew : e.newIntent path trigger replace index = new
  have hgeneration : new.generation = e.generation + 1 := by
    rw [← hnew]
    rfl
  have hreport :=
    reportSuperseded_aloof htell new (e.queue.filter fun old => supersedes new old) (e.cleared new)
  generalize hafter : reportSuperseded tell new (e.cleared new)
    (e.queue.filter fun old => supersedes new old) = r at hreport
  have hsubmit : (e.submit tell path trigger replace index).2 =
      { r with
        queue := r.queue ++ [new]
        trail := { r.trail with pending := some new }
        signals := r.signals ++ [.wake] } := by
    subst hnew hafter
    rfl
  have hcount : e.generation + 1 ≤ r.generation := hreport.generation
  rw [hsubmit]
  refine ⟨hreport.shelf, hreport.path, Nat.le_of_succ_le hcount, fun i hi => ?_, fun g hg _ => ?_,
    fun h _ => ?_⟩
  · rcases List.mem_append.mp hi with hi | hi
    · exact (hreport.queue i hi).imp mem_of_mem_cleared Nat.lt_of_succ_lt
    · rw [List.mem_singleton.mp hi, hgeneration]
      exact Or.inr (Nat.lt_succ_self _)
  · obtain ⟨hgone, hnot⟩ := hg.cleared new
    exact hreport.outcomes g hgone hnot
  · have hfresh := h.gone_new new
    have hnot : e.generation + 1 ∉ (e.queue.filter fun old => supersedes new old).map
        Intent.generation := by
      intro hmem
      obtain ⟨old, hold, hsame⟩ := List.mem_map.mp hmem
      have hknown := h.known old (List.mem_filter.mp hold).1
      omega
    have horderly : Orderly r := hreport.orderly (h.cleared new) fun g hg => h.gone_of_superseded hg
    have hunheard : Keyed.get? (e.generation + 1) r.outcomes = none :=
      (hreport.outcomes _ hfresh hnot).trans (h.ahead _ (Nat.lt_succ_self _))
    rw [← hgeneration] at hfresh hunheard
    exact horderly.enqueue (hreport.gone hfresh) hunheard _ _

theorem travel_aloof (htell : Steadfast tell) (e : Engine ω) (t : Trigger) :
    Aloof [] e (e.travel tell t).2 := by
  unfold travel
  split
  · exact Aloof.refl e
  · rename_i h hmove
    have hmoved : Aloof [] e { e with history := h } := Aloof.of_same rfl rfl rfl rfl rfl
    dsimp only
    split_ifs
    · exact hmoved.trans (submit_aloof htell { e with history := h } h.current t false
        (some h.index))
    · exact hmoved

/-- Keeping a list of the events changes nothing about that. -/
theorem chronicled_steadfast (htell : Steadfast tell) : Steadfast (chronicled tell) := by
  intro ev e
  have h := htell ev e.forget
  exact ⟨h.shelf, h.path, h.generation, h.queue, h.outcomes, fun horderly hgone =>
    have hafter :=
      h.orderly ⟨horderly.known, horderly.nodup, horderly.unheard, horderly.ahead⟩ hgone
    ⟨hafter.known, hafter.nodup, hafter.unheard, hafter.ahead⟩⟩

/-! ## All audiences -/

section Audience

variable {tell : Event → Engine Audience → Engine Audience}

theorem react_aloof (htell : Steadfast tell) (e : Engine Audience) (event : Event)
    (reaction : Reaction) :
    Aloof [] e (e.react tell event reaction) := by
  cases reaction with
  | fail => exact Aloof.of_same rfl rfl rfl rfl rfl
  | submit path trigger =>
    have hsubmit := submit_aloof htell e path trigger false none
    exact hsubmit.trans (Aloof.of_same rfl rfl rfl rfl rfl)
  | remove name =>
    unfold react
    dsimp only
    split
    · exact Aloof.of_same rfl rfl rfl rfl rfl
    · exact Aloof.of_same rfl rfl rfl rfl rfl
  | goBack => exact travel_aloof htell e .back
  | become s =>
    unfold react become
    dsimp only
    split
    · exact Aloof.of_same rfl rfl rfl rfl rfl
    · exact Aloof.refl e

theorem tellOne_aloof (htell : Steadfast tell) (event : Event) (e : Engine Audience)
    (l : Listener) : Aloof [] e (tellOne tell event e l) := by
  unfold tellOne
  split
  · exact Aloof.of_same rfl rfl rfl rfl rfl
  · split_ifs
    · split
      · exact Aloof.refl e
      · rename_i own hspend
        have hspent : Aloof [] e { e with own := own.hears (.acted l.name event) } :=
          Aloof.of_same rfl rfl rfl rfl rfl
        exact hspent.trans (react_aloof htell _ event _)
    · exact Aloof.refl e

theorem foldl_tellOne_aloof (htell : Steadfast tell) (event : Event) (ls : List Listener)
    (e : Engine Audience) :
    Aloof [] e (ls.foldl (tellOne tell event) e) := by
  induction ls generalizing e with
  | nil => exact Aloof.refl e
  | cons l ls ih => exact (tellOne_aloof htell event e l).trans (ih _)

theorem tellFor_steadfast (depth : Nat) : Steadfast (tellFor depth) := by
  induction depth with
  | zero => exact fun _ e => Aloof.refl e
  | succ depth ih => exact fun event e => foldl_tellOne_aloof ih event e.own.listeners e

/-- No audience deals with intents or touches what has been loaded, however deep its reactions
nest. -/
theorem tellAll_steadfast : Steadfast tellAll :=
  fun event e => tellFor_steadfast (e.own.budget + 1) event e

end Audience

end Waypost.Browser.Engine
