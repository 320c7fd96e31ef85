import Waypost.Proofs.Browser.Lasting
import Waypost.Proofs.Browser.Mirror
import Waypost.Proofs.Browser.Views

/-!
# What supersession leaves

Intents are submitted one after the other while none is dealt with. Of a click any later intent
takes the place, of a move of the browser the next move.

* `submissions` : the intents that a list of steps submits;
* `Leaves is queue` : of the intents `is`, the last move and the last click after it wait;
* `Traced is e` : this is so, and the wait for every other one has ended with the first that could
  take its place; `run_traced` : a run in which no intent is dealt with keeps it;
* `Paired` : one move and one click behind it wait at the most; `lasting_paired` : any run keeps it
  if nobody calls back;
* `life_orderly` : nothing has been heard of the intents that wait or are to come, all through the
  life of an engine.
-/

namespace Waypost.Browser

open Access

/-- Whether a step deals with waiting intents. -/
def Step.deals : Step → Bool
  | .next | .process _ => true
  | .submit .. | .travel _ | .credential .. | .clock _ => false

/-- The first later intent that may take the place of an intent: of a click any may, of a move of
the browser another move. -/
def Intent.successor? (i : Intent) (later : List Intent) : Option Intent :=
  if i.trigger.isExternal then later.find? fun j => j.trigger.isExternal else later.head?

namespace Engine

variable {ω : Type} {tell : Event → Engine ω → Engine ω} {P : ω → Prop}

/-- The intent that a step submits. -/
def submission? (e : Engine ω) : Step → Option Intent
  | .submit path trigger replace index => some (e.newIntent path trigger replace index)
  | .travel t =>
    match e.history.move? t with
    | none => none
    | some h =>
      if e.listening then some ({ e with history := h }.newIntent h.current t false (some h.index))
      else none
  | _ => none

/-- The intents that a list of steps submits, in order. -/
def submissions (tell : Event → Engine ω → Engine ω) : Engine ω → List Step → List Intent
  | _, [] => []
  | e, s :: steps => (e.submission? s).toList ++ submissions tell (e.perform tell s).2 steps

/-! ## The last move and the last click after it -/

/-- What waits of a list of intents: the last move of the browser and the last click after it, or
the last click if there is no move. -/
inductive Leaves : List Intent → List Intent → Prop where
  | clicks {is : List Intent} (hinner : InnerOnly is) : Leaves is is.getLast?.toList
  | move {before later : List Intent} {i : Intent} (houter : i.trigger.isExternal)
      (hinner : InnerOnly later) : Leaves (before ++ i :: later) (i :: later.getLast?.toList)

theorem getLast?_toList_sublist (is : List Intent) : is.getLast?.toList.Sublist is := by
  rcases List.eq_nil_or_concat is with rfl | ⟨before, i, rfl⟩
  · exact List.Sublist.refl []
  · rw [List.concat_eq_append, List.getLast?_concat]
    exact List.sublist_append_right before [i]

theorem InnerOnly.concat {is : List Intent} (h : InnerOnly is) {new : Intent}
    (hnew : ¬ new.trigger.isExternal) :
    InnerOnly (is ++ [new]) :=
  List.forall_mem_append.mpr ⟨h, List.forall_mem_singleton.mpr hnew⟩

namespace Leaves

variable {is queue : List Intent}

/-- What waits was submitted, and waits in the order in which it was. -/
theorem sublist (h : Leaves is queue) : queue.Sublist is := by
  cases h with
  | clicks hinner => exact getLast?_toList_sublist is
  | @move before later i houter hinner =>
    exact ((getLast?_toList_sublist later).cons_cons i).trans
      (List.sublist_append_right before (i :: later))

/-- A new intent takes the place of what it supersedes. -/
theorem concat (h : Leaves is queue) (new : Intent) :
    Leaves (is ++ [new]) ((queue.filter fun old => !supersedes new old) ++ [new]) := by
  by_cases hnew : new.trigger.isExternal
  · have hnone : (queue.filter fun old => !supersedes new old) = [] := by
      simp [supersedes_of_outer hnew]
    rw [hnone]
    exact .move hnew nofun
  · simp only [supersedes_of_inner hnew, Bool.not_not]
    have hclick : ∀ {later : List Intent}, InnerOnly later →
        (later.getLast?.toList.filter fun old => old.trigger.isExternal) = [] := fun hinner =>
      List.filter_eq_nil_iff.mpr fun i hi => hinner i ((getLast?_toList_sublist _).mem hi)
    cases h with
    | clicks hinner =>
      have hleaves := Leaves.clicks (hinner.concat hnew)
      rw [List.getLast?_concat] at hleaves
      rw [hclick hinner]
      exact hleaves
    | @move before later i houter hinner =>
      have hleaves : Leaves (before ++ i :: (later ++ [new])) _ := .move houter (hinner.concat hnew)
      rw [List.getLast?_concat] at hleaves
      rw [List.filter_cons, if_pos houter, hclick hinner, List.append_assoc]
      exact hleaves

end Leaves

/-! ## One submission -/

/-- Those who listen submit nothing and end no wait when an intent is superseded, so that
submissions come one after the other, as long as `P` holds of what belongs to them, and it goes on
to hold. -/
def Patient (P : ω → Prop) (tell : Event → Engine ω → Engine ω) : Prop :=
  ∀ old new e, P e.own → P (tell (.superseded old new) e).own ∧
    (tell (.superseded old new) e).queue = e.queue ∧
    (tell (.superseded old new) e).generation = e.generation ∧
    (tell (.superseded old new) e).outcomes = e.outcomes

theorem QuietOn.patient (hquiet : QuietOn P tell) : Patient P tell := by
  intro old new e hown
  obtain ⟨own, journal, source, wallet, now, hown', htell⟩ := hquiet (.superseded old new) e hown
  rw [htell]
  exact ⟨hown', rfl, rfl, rfl⟩

/-- The outcome that a list of intents, as far as a new one supersedes them, comes to for a
generation. -/
def dismissal? (new : Intent) (olds : List Intent) (g : Nat) : Option Outcome :=
  (olds.find? fun old => old.generation = g).map fun old => .event (.superseded old new)

theorem dismissal?_cons (new old : Intent) (olds : List Intent) (g : Nat) :
    dismissal? new (old :: olds) g =
      (if old.generation = g then some (.event (.superseded old new)) else none).or
        (dismissal? new olds g) := by
  unfold dismissal?
  by_cases hold : old.generation = g
  · rw [List.find?_cons_of_pos (by simpa using hold), if_pos hold]
    rfl
  · rw [List.find?_cons_of_neg (by simpa using hold), if_neg hold, Option.none_or]

theorem reportSuperseded_patient (htell : Patient P tell) (new : Intent) (olds : List Intent)
    (e : Engine ω) (hown : P e.own) :
    P (reportSuperseded tell new e olds).own ∧ (reportSuperseded tell new e olds).queue = e.queue ∧
      (reportSuperseded tell new e olds).generation = e.generation ∧
      ∀ g, Keyed.get? g (reportSuperseded tell new e olds).outcomes =
        (Keyed.get? g e.outcomes).or (dismissal? new olds g) := by
  induction olds generalizing e with
  | nil => exact ⟨hown, rfl, rfl, fun g => (Option.or_none).symm⟩
  | cons old olds ih =>
    obtain ⟨hown₁, hqueue₁, hgeneration₁, houtcomes₁⟩ :=
      htell old new (e.resolve old.generation (.event (.superseded old new))) hown
    obtain ⟨hown', hqueue, hgeneration, houtcomes⟩ := ih _ hown₁
    rw [reportSuperseded]
    refine ⟨hown', hqueue.trans hqueue₁, hgeneration.trans hgeneration₁, fun g => ?_⟩
    rw [houtcomes, houtcomes₁, dismissal?_cons, ← Option.or_assoc, ← Keyed.get?_putNew]
    rfl

/-- The engine `e'` is `e` once the intent `new` has been submitted, as far as what waits goes. -/
structure Submitted (new : Intent) (e e' : Engine ω) : Prop where
  number : new.generation = e.generation + 1
  generation : e'.generation = new.generation
  queue : e'.queue = (e.queue.filter fun old => !supersedes new old) ++ [new]
  outcomes : ∀ g, Keyed.get? g e'.outcomes =
    (Keyed.get? g e.outcomes).or (dismissal? new (e.queue.filter fun old => supersedes new old) g)

theorem submit_submitted (htell : Patient P tell) {e : Engine ω} (hown : P e.own) (path : String)
    (trigger : Trigger) (replace : Bool) (index : Option Int) :
    P (e.submit tell path trigger replace index).2.own ∧
      Submitted (e.newIntent path trigger replace index) e
        (e.submit tell path trigger replace index).2 := by
  obtain ⟨hown', hqueue, hgeneration, houtcomes⟩ :=
    reportSuperseded_patient htell (e.newIntent path trigger replace index)
      (e.queue.filter fun old => supersedes (e.newIntent path trigger replace index) old)
      (e.cleared (e.newIntent path trigger replace index)) hown
  exact ⟨hown', rfl, hgeneration, congrArg (· ++ [e.newIntent path trigger replace index]) hqueue,
    houtcomes⟩

/-- Nothing has been submitted between the engines. -/
def Unmoved (e e' : Engine ω) : Prop :=
  e'.queue = e.queue ∧ e'.generation = e.generation ∧ e'.outcomes = e.outcomes

/-- A step that deals with no intent submits one or none. -/
theorem perform_submitted (htell : Patient P tell) {e : Engine ω} (hown : P e.own) {s : Step}
    (hs : ¬ s.deals) :
    P (e.perform tell s).2.own ∧ ((e.submission? s = none ∧ Unmoved e (e.perform tell s).2) ∨
      ∃ new, e.submission? s = some new ∧ Submitted new e (e.perform tell s).2) := by
  cases s with
  | submit path trigger replace index =>
    obtain ⟨hown', hsubmitted⟩ := submit_submitted htell hown path trigger replace index
    exact ⟨hown', Or.inr ⟨_, rfl, hsubmitted⟩⟩
  | travel t =>
    unfold perform travel submission?
    dsimp only
    cases e.history.move? t with
    | none => exact ⟨hown, Or.inl ⟨rfl, rfl, rfl, rfl⟩⟩
    | some h =>
      dsimp only
      split_ifs
      · obtain ⟨hown', hnumber, hgeneration, hqueue, houtcomes⟩ :=
          submit_submitted htell (e := { e with history := h }) hown h.current t false
            (some h.index)
        exact ⟨hown', Or.inr ⟨_, rfl, hnumber, hgeneration, hqueue, houtcomes⟩⟩
      · exact ⟨hown, Or.inl ⟨rfl, rfl, rfl, rfl⟩⟩
  | next => exact absurd rfl hs
  | process more => exact absurd rfl hs
  | credential source wallet => exact ⟨hown, Or.inl ⟨rfl, rfl, rfl, rfl⟩⟩
  | clock now => exact ⟨hown, Or.inl ⟨rfl, rfl, rfl, rfl⟩⟩

/-! ## A run of submissions -/

/-- What has become of an intent whose place the given one could take first. -/
def Fate (e : Engine ω) (i : Intent) : Option Intent → Prop
  | none => i ∈ e.queue ∧ Keyed.get? i.generation e.outcomes = none
  | some j => Keyed.get? i.generation e.outcomes = some (.event (.superseded i j))

/-- The intents `is` have been submitted in order, and each has met its fate. -/
structure Traced (is : List Intent) (e : Engine ω) : Prop where
  leaves : Leaves is e.queue
  rising : is.Pairwise fun i j => i.generation < j.generation
  known : ∀ i ∈ is, i.generation ≤ e.generation
  ahead : ∀ g, e.generation < g → Keyed.get? g e.outcomes = none
  fate : ∀ before i later, is = before ++ i :: later → Fate e i (i.successor? later)

/-- Intents that come in the order of their generations are found by them. -/
theorem dismissal?_eq {is olds : List Intent}
    (hrising : is.Pairwise fun i j => i.generation < j.generation) (holds : ∀ old ∈ olds, old ∈ is)
    (new : Intent) {i : Intent} (hi : i ∈ is) :
    dismissal? new olds i.generation =
      if i ∈ olds then some (.event (.superseded i new)) else none := by
  have hnodup : (is.map Intent.generation).Nodup :=
    List.pairwise_map.mpr (hrising.imp Nat.ne_of_lt)
  unfold dismissal?
  cases hfind : olds.find? fun old => old.generation = i.generation with
  | none =>
    rw [List.find?_eq_none] at hfind
    rw [if_neg fun hmem => hfind i hmem (decide_eq_true rfl)]
    rfl
  | some old =>
    have hold := List.mem_of_find?_eq_some hfind
    have hsame : old.generation = i.generation := by simpa using List.find?_some hfind
    obtain rfl := List.inj_on_of_nodup_map hnodup (holds old hold) hi hsame
    rw [if_pos hold]
    rfl

theorem dismissal?_eq_none {olds : List Intent} {g : Nat} (h : ∀ old ∈ olds, old.generation ≠ g)
    (new : Intent) : dismissal? new olds g = none := by
  rw [dismissal?, Option.map_eq_none_iff, List.find?_eq_none]
  exact fun old hold => by simpa using h old hold

theorem successor?_concat (i : Intent) (later : List Intent) (new : Intent) :
    i.successor? (later ++ [new]) = (i.successor? later).or
      (if supersedes new i then some new else none) := by
  unfold Intent.successor?
  by_cases houter : i.trigger.isExternal
  · simp [houter, supersedes, List.find?_append, List.find?_singleton]
  · simp [houter, supersedes, List.head?_append]

namespace Traced

variable {is : List Intent} {e e' : Engine ω}

theorem unmoved (h : Traced is e) (hsame : Unmoved e e') : Traced is e' := by
  obtain ⟨hqueue, hgeneration, houtcomes⟩ := hsame
  refine ⟨?_, h.rising, ?_, ?_, ?_⟩
  · rw [hqueue]
    exact h.leaves
  · rw [hgeneration]
    exact h.known
  · rw [hgeneration, houtcomes]
    exact h.ahead
  · intro before i later his
    have hfate := h.fate before i later his
    unfold Fate at hfate ⊢
    rw [hqueue, houtcomes]
    exact hfate

/-- An intent that has been submitted meets the fate that the next submission has for it. -/
theorem fate_submitted (h : Traced is e) {new : Intent} (hnew : Submitted new e e')
    {before later : List Intent} {i : Intent} (his : is = before ++ i :: later) :
    Fate e' i (i.successor? (later ++ [new])) := by
  have hi : i ∈ is := by
    rw [his]
    exact List.mem_append_right before List.mem_cons_self
  have houtcome := hnew.outcomes i.generation
  rw [dismissal?_eq h.rising (fun old hold => h.leaves.sublist.mem (List.mem_filter.mp hold).1) new
    hi] at houtcome
  have hfate := h.fate before i later his
  rw [successor?_concat]
  -- What has ended stays ended; what waits is superseded now or goes on to wait.
  cases hlater : i.successor? later with
  | some j =>
    rw [hlater] at hfate
    rw [show Keyed.get? i.generation e.outcomes = _ from hfate, Option.some_or] at houtcome
    exact houtcome
  | none =>
    rw [hlater] at hfate
    obtain ⟨hwaits, hunheard⟩ := hfate
    rw [hunheard, Option.none_or] at houtcome
    rw [Option.none_or]
    split_ifs with hsupersedes
    · rw [if_pos (List.mem_filter.mpr ⟨hwaits, hsupersedes⟩)] at houtcome
      exact houtcome
    · refine ⟨?_, ?_⟩
      · rw [hnew.queue]
        exact List.mem_append_left _ (List.mem_filter.mpr ⟨hwaits, by simpa using hsupersedes⟩)
      · rw [if_neg fun hmem => hsupersedes (List.mem_filter.mp hmem).2] at houtcome
        exact houtcome

theorem submitted (h : Traced is e) {new : Intent} (hnew : Submitted new e e') :
    Traced (is ++ [new]) e' := by
  have hbelow : ∀ i ∈ is, i.generation < new.generation := fun i hi => by
    rw [hnew.number]
    exact Nat.lt_succ_of_le (h.known i hi)
  -- What has not been submitted before has not been superseded.
  have hahead : ∀ g, new.generation ≤ g → Keyed.get? g e'.outcomes = none := by
    intro g hg
    rw [hnew.outcomes, h.ahead g (by rw [hnew.number] at hg; omega), Option.none_or]
    refine dismissal?_eq_none (fun old hold => Nat.ne_of_lt (Nat.lt_of_lt_of_le (hbelow old ?_) hg))
      new
    exact h.leaves.sublist.mem (List.mem_filter.mp hold).1
  refine ⟨?_, ?_, ?_, ?_, ?_⟩
  · rw [hnew.queue]
    exact h.leaves.concat new
  · rw [List.pairwise_append]
    exact ⟨h.rising, List.pairwise_singleton _ _, fun i hi j hj =>
      by rw [List.mem_singleton.mp hj]; exact hbelow i hi⟩
  · rw [hnew.generation]
    exact List.forall_mem_append.mpr
      ⟨fun i hi => Nat.le_of_lt (hbelow i hi), List.forall_mem_singleton.mpr (Nat.le_refl _)⟩
  · rw [hnew.generation]
    exact fun g hg => hahead g (Nat.le_of_lt hg)
  · intro before i later his
    -- The intent is the new one, or it was submitted before and the new one is the last of those
    -- after it.
    rcases List.eq_nil_or_concat later with rfl | ⟨later, j, rfl⟩
    · obtain ⟨-, hlast⟩ := List.append_inj' his rfl
      obtain rfl : new = i := by simpa using hlast
      have hnone : new.successor? [] = none := by
        unfold Intent.successor?
        split_ifs <;> rfl
      rw [hnone]
      exact ⟨by rw [hnew.queue]; exact List.mem_append_right _ (List.mem_singleton_self _),
        hahead _ (Nat.le_refl _)⟩
    · rw [List.concat_eq_append] at his ⊢
      rw [← List.cons_append, ← List.append_assoc] at his
      obtain ⟨hbefore, hlast⟩ := List.append_inj' his rfl
      obtain rfl : new = j := by simpa using hlast
      exact h.fate_submitted hnew hbefore

end Traced

/-- Along a run that deals with no intent, what is submitted is added to what has been. -/
theorem run_traced (htell : Patient P tell) {steps : List Step} (hsteps : ∀ s ∈ steps, ¬ s.deals)
    {is : List Intent} {e : Engine ω} (hown : P e.own) (h : Traced is e) :
    P (run tell e steps).own ∧ Traced (is ++ submissions tell e steps) (run tell e steps) := by
  induction steps generalizing is e with
  | nil =>
    rw [submissions, List.append_nil]
    exact ⟨hown, h⟩
  | cons s steps ih =>
    obtain ⟨hs, hsteps⟩ := List.forall_mem_cons.mp hsteps
    obtain ⟨hown', hstep⟩ := perform_submitted htell hown hs
    rw [submissions, run, ← List.append_assoc]
    rcases hstep with ⟨hnone, hsame⟩ | ⟨new, hnew, hsubmitted⟩
    · rw [hnone, Option.toList_none, List.append_nil]
      exact ih hsteps hown' (h.unmoved hsame)
    · rw [hnew, Option.toList_some]
      exact ih hsteps hown' (h.submitted hsubmitted)

/-! ## Any run -/

/-- A move and a click behind it, either of which may be missing. -/
def MoveThenClick (queue : List Intent) : Prop :=
  ∃ move click : Option Intent, queue = move.toList ++ click.toList ∧
    (∀ i ∈ move, i.trigger.isExternal) ∧ ∀ i ∈ click, ¬ i.trigger.isExternal

/-- A move and a click behind it wait at the most, in the order in which they were submitted. -/
structure Paired (e : Engine ω) : Prop where
  pair : MoveThenClick e.queue
  rising : e.queue.Pairwise fun i j => i.generation < j.generation
  known : ∀ i ∈ e.queue, i.generation ≤ e.generation

theorem Leaves.moveThenClick {is queue : List Intent} (h : Leaves is queue) :
    MoveThenClick queue := by
  have hclick : ∀ {later : List Intent}, InnerOnly later →
      ∀ i ∈ later.getLast?, ¬ i.trigger.isExternal :=
    fun hinner i hi => hinner i (List.mem_of_getLast? hi)
  cases h with
  | clicks hinner => exact ⟨none, is.getLast?, rfl, nofun, hclick hinner⟩
  | @move before later i houter hinner =>
    refine ⟨some i, later.getLast?, rfl, fun j hj => ?_, hclick hinner⟩
    rw [← Option.some.inj hj]
    exact houter

namespace MoveThenClick

variable {queue : List Intent}

/-- Such a queue is what is left of itself. -/
theorem leaves (h : MoveThenClick queue) : Leaves queue queue := by
  obtain ⟨move, click, rfl, houter, hinner⟩ := h
  have hclicks : InnerOnly click.toList := fun i hi => hinner i (Option.mem_toList.mp hi)
  have hlast : click.toList.getLast?.toList = click.toList := by
    cases click <;> rfl
  cases move with
  | none =>
    have hleaves := Leaves.clicks hclicks
    rw [hlast] at hleaves
    exact hleaves
  | some i =>
    have hleaves : Leaves ([] ++ i :: click.toList) _ := .move (houter i rfl) hclicks
    rw [hlast] at hleaves
    exact hleaves

theorem submit (h : MoveThenClick queue) (new : Intent) :
    MoveThenClick ((queue.filter fun old => !supersedes new old) ++ [new]) :=
  (h.leaves.concat new).moveThenClick

theorem tail {i : Intent} (h : MoveThenClick (i :: queue)) : MoveThenClick queue := by
  obtain ⟨move, click, hqueue, houter, hinner⟩ := h
  cases move with
  | none =>
    cases click with
    | none => cases hqueue
    | some j =>
      obtain ⟨-, rfl⟩ := List.cons.inj hqueue
      exact ⟨none, none, rfl, nofun, nofun⟩
  | some j =>
    obtain ⟨-, rfl⟩ := List.cons.inj hqueue
    exact ⟨none, click, rfl, nofun, hinner⟩

end MoveThenClick

theorem Traced.paired {is : List Intent} {e : Engine ω} (h : Traced is e) : Paired e :=
  ⟨h.leaves.moveThenClick, h.rising.sublist h.leaves.sublist,
    fun i hi => h.known i (h.leaves.sublist.mem hi)⟩

/-- Taking the first intent from the queue. -/
theorem Paired.dequeue {e e' : Engine ω} {i : Intent} {rest : List Intent} (h : Paired e)
    (hqueue : e.queue = i :: rest) (hrest : e'.queue = rest)
    (hgeneration : e'.generation = e.generation) : Paired e' := by
  obtain ⟨hpair, hrising, hknown⟩ := h
  rw [hqueue] at hpair hrising hknown
  refine ⟨?_, ?_, ?_⟩
  · rw [hrest]
    exact hpair.tail
  · rw [hrest]
    exact hrising.of_cons
  · rw [hrest, hgeneration]
    exact fun j hj => hknown j (List.mem_cons_of_mem i hj)

theorem submit_paired (hquiet : QuietOn P tell) {e : Engine ω} (hown : P e.own) (h : Paired e)
    (path : String) (trigger : Trigger) (replace : Bool) (index : Option Int) :
    P (e.submit tell path trigger replace index).2.own ∧
      Paired (e.submit tell path trigger replace index).2 := by
  obtain ⟨hown', hnumber, hgeneration, hqueue, -⟩ :=
    submit_submitted hquiet.patient hown path trigger replace index
  have hbelow : ∀ i ∈ e.queue.filter fun old =>
      !supersedes (e.newIntent path trigger replace index) old,
        i.generation < (e.newIntent path trigger replace index).generation := fun i hi => by
      rw [hnumber]
      exact Nat.lt_succ_of_le (h.known i (List.mem_filter.mp hi).1)
  refine ⟨hown', ?_, ?_, ?_⟩
  · rw [hqueue]
    exact h.pair.submit _
  · rw [hqueue, List.pairwise_append]
    refine ⟨h.rising.sublist List.filter_sublist, List.pairwise_singleton _ _, fun i hi j hj => ?_⟩
    rw [List.mem_singleton.mp hj]
    exact hbelow i hi
  · rw [hqueue, hgeneration]
    exact List.forall_mem_append.mpr
      ⟨fun i hi => Nat.le_of_lt (hbelow i hi), List.forall_mem_singleton.mpr (Nat.le_refl _)⟩

theorem processNext_paired (hquiet : QuietOn P tell) {e e' : Engine ω} {i : Intent}
    {rest : List Intent} {r : Except Fault Unit} (hown : P e.own) (h : Paired e)
    (hqueue : e.queue = i :: rest) (hnext : e.processNext tell = some (r, e')) :
    P e'.own ∧ Paired e' := by
  cases r with
  | error f =>
    obtain ⟨-, hbackdrop, -⟩ := processNext_error hqueue hnext
    have hown' : e'.own = e.own := congrArg Backdrop.own hbackdrop
    exact ⟨by rw [hown']; exact hown,
      h.dequeue hqueue (congrArg Backdrop.queue hbackdrop) (congrArg Backdrop.generation hbackdrop)⟩
  | ok u =>
    obtain ⟨ev, e₁, hbackdrop, -, hafter, -⟩ := processNext_spec hqueue hnext
    have hown₁ : e₁.own = e.own := congrArg Backdrop.own hbackdrop
    obtain ⟨own, journal, source, wallet, now, hown', htell⟩ :=
      hquiet ev e₁ (by rw [hown₁]; exact hown)
    rw [htell] at hafter
    have hown₂ : e'.own = own := congrArg Backdrop.own hafter
    exact ⟨by rw [hown₂]; exact hown', h.dequeue hqueue
      ((congrArg Backdrop.queue hafter).trans (congrArg Backdrop.queue hbackdrop))
      ((congrArg Backdrop.generation hafter).trans (congrArg Backdrop.generation hbackdrop))⟩

/-- No run has more than a move and a click wait, whether or not the credential can be read along
it. -/
theorem lasting_paired (hquiet : QuietOn P tell) :
    Lasting tell (fun _ => True) (fun _ _ => True) fun e => P e.own ∧ Paired e where
  submit := fun ⟨hown, h⟩ _ => submit_paired hquiet hown h _ _ _ _
  travel := by
    rintro e t ⟨hown, h⟩
    unfold travel
    split
    · exact ⟨hown, h⟩
    · rename_i h' hmove
      dsimp only
      split_ifs
      · exact submit_paired hquiet (e := { e with history := h' }) hown
          ⟨h.pair, h.rising, h.known⟩ _ _ _ _
      · exact ⟨hown, h.pair, h.rising, h.known⟩
  credential := fun _ _ ⟨hown, h⟩ => ⟨hown, h.pair, h.rising, h.known⟩
  clock := fun _ ⟨hown, h⟩ => ⟨hown, h.pair, h.rising, h.known⟩
  next := fun ⟨hown, h⟩ hqueue _ hnext => processNext_paired hquiet hown h hqueue hnext

/-! ## Every engine is orderly -/

theorem Aloof.keeps_orderly {e e' : Engine ω} (h : Aloof [] e e') (horderly : Orderly e) :
    Orderly e' :=
  h.orderly horderly fun _ hg => (List.not_mem_nil hg).elim

theorem processNext_orderly (htell : Steadfast tell) {e e' : Engine ω} {i : Intent}
    {rest : List Intent} {r : Except Fault Unit} (h : Orderly e) (hqueue : e.queue = i :: rest)
    (hnext : e.processNext tell = some (r, e')) :
    Orderly e' := by
  obtain ⟨hbefore, hgone⟩ := h.dequeue hqueue
  unfold processNext at hnext
  rw [hqueue] at hnext
  dsimp only at hnext
  rcases process_spec tell { e with queue := rest } i with
    ⟨f, e₁, hprocess, -, hbackdrop, -⟩ | ⟨ev, e₁, hprocess, hbackdrop, -⟩
  · rw [hprocess] at hnext
    obtain rfl := (Prod.mk.inj (Option.some.inj hnext)).2
    exact hbefore.of_backdrop hbackdrop
  · rw [hprocess] at hnext
    obtain rfl := (Prod.mk.inj (Option.some.inj hnext)).2
    have haloof := htell ev e₁
    have hclosing := (closing_spec ev (tell ev e₁)).1
    have horderly := (haloof.keeps_orderly (hbefore.of_backdrop hbackdrop)).of_backdrop hclosing
    have hgone₁ := (haloof.gone (hgone.of_backdrop hbackdrop)).of_backdrop hclosing
    exact (Aloof.resolve { closing ev (tell ev e₁) with phase := .idle } i.generation
      (.event ev)).orderly
      ⟨horderly.known, horderly.nodup, horderly.unheard, horderly.ahead⟩
      (List.forall_mem_singleton.mpr hgone₁)

theorem lasting_orderly (htell : Steadfast tell) :
    Lasting tell (fun _ => True) (fun _ _ => True) Orderly where
  submit := fun h _ => (submit_aloof htell _ _ _ _ _).keeps_orderly h
  travel := fun t h => (travel_aloof htell _ t).keeps_orderly h
  credential := fun _ _ h => ⟨h.known, h.nodup, h.unheard, h.ahead⟩
  clock := fun _ h => ⟨h.known, h.nodup, h.unheard, h.ahead⟩
  next := fun h hqueue _ hnext => processNext_orderly htell h hqueue hnext

theorem take_orderly (htell : Steadfast tell) {e : Engine ω} (h : Orderly e) (t : Turn) :
    Orderly (take tell e t) := by
  cases t with
  | step s => exact (lasting_orderly htell).perform h trivial [] fun _ _ _ => trivial
  | start =>
    rw [take, start]
    split_ifs
    · exact h
    · exact ⟨h.known, h.nodup, h.unheard, h.ahead⟩
  | close =>
    have hclosed : Orderly { e with listening := false } := ⟨h.known, h.nodup, h.unheard, h.ahead⟩
    exact hclosed.of_backdrop (giveUpLoad_spec _).1
  | loaded n result =>
    rw [take]
    split_ifs with hloading
    · obtain ⟨l, hload, -⟩ := isLoading_iff.mp hloading
      rcases receive_cases tell e hload result with ⟨-, journal, hreceive⟩ | ⟨journal, hreceive⟩
      · have htold : Orderly (tell (viewEvent l.intent result) { e with journal }) :=
          (htell _ _).keeps_orderly ⟨h.known, h.nodup, h.unheard, h.ahead⟩
        rw [hreceive]
        exact ⟨htold.known, htold.nodup, htold.unheard, htold.ahead⟩
      · rw [hreceive]
        exact ⟨h.known, h.nodup, h.unheard, h.ahead⟩
    · exact h
  | dropped n => exact ⟨h.known, h.nodup, h.unheard, h.ahead⟩

/-- An engine that has had no intents is orderly all its life, whether or not those who listen call
back. -/
theorem life_orderly (htell : Steadfast tell) {e : Engine ω} (hnew : e.IsNew) (turns : List Turn) :
    Orderly (life tell e turns) := by
  have hstart : Orderly e := by
    refine ⟨?_, ?_, ?_, fun g _ => ?_⟩
    · rw [hnew.queue]
      exact nofun
    · rw [hnew.queue]
      exact .nil
    · rw [hnew.queue]
      exact nofun
    · rw [hnew.outcomes]
      rfl
  have htake : ∀ (e : Engine ω) t, True → Orderly e → Orderly (take tell e t) :=
    fun _ t _ h => take_orderly htell h t
  exact life_keeps htake (fun _ _ => trivial) hstart

/-! ## The whole -/

/-- Intents that are submitted to an engine for which none waits leave the last move and the last
click after it, and the wait for every other one ends with the first that could take its place. From
then on, a move and a click behind it wait at the most, if nobody calls back. -/
theorem run_supersedes (htell : Patient P tell) {e : Engine ω} (hown : P e.own)
    (horderly : Orderly e) (hempty : e.queue = []) {steps : List Step}
    (hsteps : ∀ s ∈ steps, ¬ s.deals) :
    Leaves (submissions tell e steps) (run tell e steps).queue ∧
      (∀ before i later, submissions tell e steps = before ++ i :: later →
        i ∉ (run tell e steps).queue → ∃ j, i.successor? later = some j ∧
          Keyed.get? i.generation (run tell e steps).outcomes = some (.event (.superseded i j))) ∧
      (QuietOn P tell → ∀ more, Paired (run tell (run tell e steps) more)) := by
  have hstart : Traced [] e := by
    refine ⟨?_, .nil, nofun, horderly.ahead, fun before i later his => ?_⟩
    · rw [hempty]
      exact .clicks nofun
    · simp at his
  obtain ⟨hown', htraced⟩ := run_traced htell hsteps hown hstart
  rw [List.nil_append] at htraced
  refine ⟨htraced.leaves, fun before i later his hgone => ?_, fun hquiet more => ?_⟩
  · have hfate := htraced.fate before i later his
    cases hlater : i.successor? later with
    | none =>
      rw [hlater] at hfate
      exact absurd hfate.1 hgone
    | some j =>
      rw [hlater] at hfate
      exact ⟨j, rfl, hfate⟩
  · exact ((lasting_paired hquiet).run ⟨hown', htraced.paired⟩ (fun _ _ => trivial) fun _ _ _ =>
      trivial).2

/-- Someone clicks, reports a move and clicks again, twice. -/
def fickleVisit : List Step :=
  [.submit "/items" .userClick false none, .submit "/lost" .back false none,
    .submit "/" .userClick false none, .travel .back, .submit "/items" .programmatic true none]

theorem run_supersedes_fickleVisit :
    Leaves (submissions tellAll itemPage.start fickleVisit)
      (run tellAll itemPage.start fickleVisit).queue ∧
      (∃ j, j.generation = 2 ∧ Keyed.get? 1 (run tellAll itemPage.start fickleVisit).outcomes =
        some (.event (.superseded ⟨"/items", .userClick, false, 1, none⟩ j))) ∧
      Paired (run tellAll (run tellAll itemPage.start fickleVisit) [.process 0]) := by
  have hpassive : itemPage.start.own.Passive := by
    simp [Audience.Passive, itemPage, start, Audience.subscribe, Listener.callsBack]
  have hsteps : ∀ s ∈ fickleVisit, ¬ s.deals := by
    simp [fickleVisit, Step.deals]
  have hnew : itemPage.IsNew := ⟨rfl, rfl, rfl, rfl⟩
  have horderly : Orderly itemPage.start := life_orderly tellAll_steadfast hnew [.start]
  obtain ⟨hleaves, hended, hpaired⟩ :=
    run_supersedes tellAll_quietOn.patient hpassive horderly rfl hsteps
  obtain ⟨j, hfirst, houtcome⟩ := hended [] ⟨"/items", .userClick, false, 1, none⟩ _ rfl (by decide)
  refine ⟨hleaves, ⟨j, ?_, houtcome⟩, hpaired tellAll_quietOn [.process 0]⟩
  cases hfirst
  rfl

/-- Whoever submits when an intent is superseded does so in the middle of a submission, and the
intent that comes of it waits before the one that was submitted. -/
example :
    let e : Engine Audience :=
      { itemPage with
        own := ({} : Audience).subscribe "restless"
          (.act (some "Superseded") (.submit "/" .programmatic)) 1 }
    (run tellAll e.start [.submit "/items" .userClick false none,
      .submit "/lost" .userClick false none]).queue.map
      Intent.generation = [3, 2] := rfl

end Engine

end Waypost.Browser
