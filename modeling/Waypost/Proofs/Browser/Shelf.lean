import Waypost.Proofs.Browser.Finality
import Waypost.Proofs.Browser.Reactions

/-!
# What a step tells, and what it leaves

* `Shelf.after` : what an event of the engine does to what it has loaded; `process_shelf` : dealing
  with an intent does no more than this;
* `submit_told`, `travel_told` : submitting an intent tells of those that it supersedes, and they
  have ended so;
* `Answered` : what the turn of an intent comes to that ends with an event; `processNext_answered`,
  `processNext_lost`.
-/

namespace Waypost.Browser

open Access

/-- Whether an event is about the data of a view. -/
def Event.isView : Event → Bool
  | .viewLoaded .. | .viewLoadFailed .. => true
  | .settled .. | .blocked .. | .failed .. | .superseded .. => false

theorem Event.isView_of_isFinal {ev : Event} (h : ev.isFinal) : ev.isView = false := by
  cases ev with
  | viewLoaded i data => cases h
  | viewLoadFailed i fault => cases h
  | _ => rfl

/-- The intent that an event reports as settled. -/
def Event.settled? : Event → Option Intent
  | .settled i _ _ => some i
  | _ => none

namespace Engine

variable {ω : Type} {tell : Event → Engine ω → Engine ω}

/-! ## The shelf -/

/-- What an event of the engine does to its shelf: for a settled intent a load begins. -/
def Shelf.after (s : Shelf) : Event → Shelf
  | .settled i viewId params =>
    if s.loading then { s with
      loads := s.loads ++ [⟨i, viewId, params, false⟩], loadGeneration := i.generation } else s
  | _ => s

/-- What a turn of the engine does to its shelf. -/
def Shelf.afterTurn (s : Shelf) : Except Fault Event → Shelf
  | .ok ev => s.after ev
  | .error _ => s

theorem write_shelf (e : Engine ω) (w : Write) (path : String) :
    (e.write w path).2.shelf = e.shelf := by
  unfold write
  cases w <;> cases e.refuses e.writes _ <;> rfl

theorem writeIntent_shelf (e : Engine ω) (i : Intent) : (e.writeIntent i).2.shelf = e.shelf := by
  unfold writeIntent
  split_ifs
  · rfl
  · exact write_shelf e _ i.path
  · exact write_shelf e _ i.path

theorem compensate_shelf (e : Engine ω) (i : Intent) : (e.compensate i).2.shelf = e.shelf := by
  have hwrite := write_shelf e .replace e.trail.currentPath
  unfold compensate
  split_ifs
  · rfl
  · dsimp only
    cases h : e.write .replace e.trail.currentPath with
    | mk result e' =>
      rw [h] at hwrite
      cases result <;> exact hwrite

theorem giveUpLoad_shelf (e : Engine ω) : e.giveUpLoad.shelf = e.shelf := by
  unfold giveUpLoad
  split
  · rfl
  · split
    · rfl
    · split_ifs <;> rfl

theorem startLoad_shelf (e : Engine ω) (i : Intent) (viewId : String)
    (params : List (String × String)) :
    (e.startLoad i viewId params).shelf = e.shelf.after (.settled i viewId params) := by
  rw [startLoad, Shelf.after, show e.shelf.loading = e.loading from rfl]
  by_cases hloading : e.loading
  · have hflag : e.giveUpLoad.loading = e.loading := congrArg Shelf.loading e.giveUpLoad_shelf
    have hloads : e.giveUpLoad.loads = e.loads := congrArg Shelf.loads e.giveUpLoad_shelf
    rw [if_neg (by rw [hloading]; decide), if_pos hloading]
    change (⟨e.giveUpLoad.loading, e.giveUpLoad.loads ++ [⟨i, viewId, params, false⟩],
      i.generation⟩ : Shelf) = _
    rw [hflag, hloads]
    rfl
  · rw [if_pos (by rw [Bool.eq_false_iff.mpr hloading]; rfl), if_neg hloading]

theorem finish_shelf (htell : Steadfast tell) (e : Engine ω) (ev : Event) :
    (e.finish tell ev).2.shelf = e.shelf :=
  (htell ev _).shelf

theorem turn_shelf (htell : Steadfast tell) (e : Engine ω) (i : Intent)
    (say : Option String → Event) (hsay : ∀ corrected (s : Shelf), s.after (say corrected) = s) :
    (turn tell e i say).2.shelf = e.shelf.after (turn tell e i say).1 := by
  have hcompensate := compensate_shelf e i
  unfold turn
  split_ifs
  · exact (finish_shelf htell e _).trans (hsay none _).symm
  · cases h : e.compensate i with
    | mk result e' =>
      rw [h] at hcompensate
      cases result with
      | error err => exact (finish_shelf htell _ _).trans hcompensate
      | ok path =>
        exact ((finish_shelf htell e' _).trans hcompensate).trans (hsay (some path) _).symm

theorem commit_shelf (htell : Steadfast tell) (e : Engine ω) (i : Intent) (viewId : String)
    (params : List (String × String)) :
    (e.commit tell i viewId params).2.shelf = e.shelf.after (e.commit tell i viewId params).1 := by
  have hwrite := writeIntent_shelf { e with phase := .committing } i
  unfold commit
  dsimp only
  cases h : writeIntent { e with phase := .committing } i with
  | mk result e' =>
    rw [h] at hwrite
    cases result with
    | error err => exact (finish_shelf htell _ _).trans hwrite
    | ok u =>
      have hsettle : (e'.settleTrail i).shelf = e'.shelf := by
        unfold settleTrail
        split_ifs <;> rfl
      have hfinish :=
        finish_shelf htell { e'.settleTrail i with phase := .settled } (.settled i viewId params)
      have hbefore : (finish tell { e'.settleTrail i with phase := .settled }
          (.settled i viewId params)).2.shelf = e.shelf :=
        hfinish.trans (hsettle.trans hwrite)
      dsimp only
      rw [startLoad_shelf, hbefore]
      rfl

theorem credential_shelf (e : Engine ω) : e.credential.2.shelf = e.shelf := by
  unfold credential
  split <;> rfl

theorem judge_shelf (htell : Steadfast tell) (e : Engine ω) (i : Intent) (entry : Route.Entry)
    (params : List (String × String)) :
    (e.judge tell i entry params).2.shelf = e.shelf.afterTurn (e.judge tell i entry params).1 := by
  have hread := credential_shelf e
  unfold judge
  cases h : e.credential with
  | mk result e' =>
    rw [h] at hread
    cases result with
    | error f => exact hread
    | ok session =>
      have hblock : ∀ reason, (e'.block tell i reason entry.level).2.shelf =
          e.shelf.after (e'.block tell i reason entry.level).1 := by
        intro reason
        rw [← hread]
        exact turn_shelf htell _ i (fun corrected => .blocked i reason corrected) fun _ _ => rfl
      dsimp only
      cases e'.guard entry.level session e'.now with
      | allowed =>
        rw [← hread]
        exact commit_shelf htell e' i entry.handlerId params
      | unauthenticated => exact hblock .unauthenticated
      | insufficientLevel => exact hblock .insufficientLevel

/-- Dealing with an intent begins a load if it settles it. -/
theorem process_shelf (htell : Steadfast tell) (e : Engine ω) (i : Intent) :
    (process tell e i).2.shelf = e.shelf.afterTurn (process tell e i).1 := by
  have hunknown : (failUnknown tell { e with phase := .evaluating } i).2.shelf =
      e.shelf.after (failUnknown tell { e with phase := .evaluating } i).1 :=
    turn_shelf htell _ i (fun _ => .failed i (.navigation (.noView i.path))) fun _ _ => rfl
  unfold process
  dsimp only
  cases e.views.lookup "GET" i.path with
  | matched entry params => exact judge_shelf htell { e with phase := .evaluating } i entry params
  | methodNotAllowed path allowed => exact hunknown
  | noRoute path => exact hunknown

/-! ## What a step tells and leaves -/

/-- An intent that settles takes the engine to its path, and any other leaves it where it is. -/
theorem Ends.path {e : Engine ω} {i : Intent} {ev : Event} {s : Standing} (hends : Ends e i ev s) :
    (∃ viewId params, ev = .settled i viewId params ∧ s.trail.currentPath = i.path) ∨
      (ev.settled? = none ∧ s.trail.currentPath = e.trail.currentPath) := by
  cases hends with
  | settled hview hread hguard hwrite =>
    refine Or.inl ⟨_, _, rfl, ?_⟩
    unfold Standing.settled
    split_ifs
    · rfl
    · exact Trail.committed_currentPath _ i
    · exact Trail.committed_currentPath _ i
  | unwritten err hpermits hinner hwrite => exact Or.inr ⟨rfl, rfl⟩
  | refused hrefusal hturned =>
    right
    have hsay : ∀ {say}, Refusal e i say → ∀ corrected, (say corrected).settled? = none := by
      intro say hrefusal corrected
      cases hrefusal <;> rfl
    cases hturned with
    | dismissed hinner => exact ⟨hsay hrefusal none, rfl⟩
    | undone houter hundoing =>
      refine ⟨hsay hrefusal _, ?_⟩
      cases hundoing
      exact Trail.moved_currentPath _ _ _ _
    | stranded houter hundoing =>
      refine ⟨rfl, ?_⟩
      cases hundoing <;> rfl

section Told

variable {e e' : Engine (ω × List Event)}

theorem reportSuperseded_told (tell : Event → Engine ω → Engine ω) (new : Intent)
    (olds : List Intent) (e : Engine (ω × List Event)) :
    (reportSuperseded (chronicled tell) new e olds).own.2 = e.own.2 ++ olds.map fun old =>
      .superseded old new := by
  induction olds generalizing e with
  | nil => exact (List.append_nil _).symm
  | cons old olds ih =>
    rw [reportSuperseded, ih, List.map_cons, List.append_cons]
    rfl

/-- What is reported as superseded has ended so, if it did not wait and nothing had been heard of
it. -/
theorem reportSuperseded_outcomes {tell : Event → Engine ω → Engine ω} (htell : Steadfast tell)
    (new : Intent) (olds : List Intent) (e : Engine ω) (hnodup : (olds.map Intent.generation).Nodup)
    (hgone : ∀ old ∈ olds, Gone e old.generation)
    (hunheard : ∀ old ∈ olds, Keyed.get? old.generation e.outcomes = none) :
    ∀ old ∈ olds, Keyed.get? old.generation (reportSuperseded tell new e olds).outcomes =
      some (.event (.superseded old new)) := by
  induction olds generalizing e with
  | nil => exact fun _ hold => (List.not_mem_nil hold).elim
  | cons first olds ih =>
    obtain ⟨hfresh, hrest⟩ := List.nodup_cons.mp hnodup
    obtain ⟨hgone₀, hgone⟩ := List.forall_mem_cons.mp hgone
    obtain ⟨hunheard₀, hunheard⟩ := List.forall_mem_cons.mp hunheard
    have hresolve := Aloof.resolve e first.generation (.event (.superseded first new))
    have htold :=
      htell (.superseded first new) (e.resolve first.generation (.event (.superseded first new)))
    have hreport := reportSuperseded_aloof htell new olds
      (tell (.superseded first new) (e.resolve first.generation (.event (.superseded first new))))
    rw [reportSuperseded]
    refine List.forall_mem_cons.mpr ⟨?_, ih _ hrest ?_ ?_⟩
    · rw [hreport.outcomes _ (htold.gone (hresolve.gone hgone₀)) hfresh,
        htold.outcomes _ (hresolve.gone hgone₀) List.not_mem_nil, get?_resolve_self hunheard₀]
    · exact fun old hold => htold.gone (hresolve.gone (hgone old hold))
    · intro old hold
      have hne : old.generation ≠ first.generation :=
        fun hsame => hfresh (hsame ▸ List.mem_map_of_mem hold)
      rw [htold.outcomes _ (hresolve.gone (hgone old hold)) List.not_mem_nil,
        get?_resolve_of_ne e hne]
      exact hunheard old hold

/-- What a step tells of intents that have not settled, and how the wait for them has ended. -/
def Dismissals (more : List Event) (e' : Engine (ω × List Event)) : Prop :=
  ∀ ev ∈ more, ev.settled? = none ∧ ev.isView = false ∧
    Keyed.get? ev.intent.generation e'.outcomes = some (.event ev)

theorem dismissals_nil (e : Engine (ω × List Event)) : Dismissals [] e :=
  fun _ hev => (List.not_mem_nil hev).elim

/-- Submitting an intent tells only of those that it supersedes. -/
theorem submit_told (htell : Steadfast tell) (h : Orderly e) (path : String) (trigger : Trigger)
    (replace : Bool) (index : Option Int) :
    ∃ more, (e.submit (chronicled tell) path trigger replace index).2.own.2 = e.own.2 ++ more ∧
      Dismissals more (e.submit (chronicled tell) path trigger replace index).2 := by
  refine ⟨_, reportSuperseded_told tell _ _ _, fun ev hev => ?_⟩
  obtain ⟨old, hold, rfl⟩ := List.mem_map.mp hev
  refine ⟨rfl, rfl, ?_⟩
  exact reportSuperseded_outcomes (chronicled_steadfast htell)
    (e.newIntent path trigger replace index)
    (e.queue.filter fun old => supersedes (e.newIntent path trigger replace index) old)
    (e.cleared (e.newIntent path trigger replace index))
      (h.nodup.sublist (List.filter_sublist.map Intent.generation))
    (fun old hold => h.gone_of_superseded (List.mem_map_of_mem hold))
    (fun old hold => h.unheard old (List.mem_filter.mp hold).1) old hold

theorem travel_told (htell : Steadfast tell) (h : Orderly e) (t : Trigger) :
    ∃ more, (e.travel (chronicled tell) t).2.own.2 = e.own.2 ++ more ∧
      Dismissals more (e.travel (chronicled tell) t).2 := by
  unfold travel
  split
  · exact ⟨[], (List.append_nil _).symm, dismissals_nil _⟩
  · rename_i moved hmove
    dsimp only
    split_ifs
    · exact submit_told htell (e := { e with history := moved })
        ⟨h.known, h.nodup, h.unheard, h.ahead⟩ _ _ _ _
    · exact ⟨[], (List.append_nil _).symm, dismissals_nil _⟩

/-- The turn of the intent `i` has ended with the event `ev`. -/
structure Answered (i : Intent) (ev : Event) (e e' : Engine (ω × List Event)) : Prop where
  told : e'.own.2 = e.own.2 ++ [ev]
  final : ev.isFinal
  intent : ev.intent = i
  shelf : e'.shelf = e.shelf.after ev
  path : (∃ viewId params, ev = .settled i viewId params ∧ e'.trail.currentPath = i.path) ∨
    (ev.settled? = none ∧ e'.trail.currentPath = e.trail.currentPath)
  orderly : Orderly e'
  outcome : Keyed.get? i.generation e'.outcomes = some (.event ev)
  outcomes : ∀ g, Gone e g → Keyed.get? g e'.outcomes = Keyed.get? g e.outcomes

theorem Orderly.of_backdrop {e e' : Engine ω} (h : Orderly e)
    (hbackdrop : e'.backdrop = e.backdrop) : Orderly e' := by
  have hqueue : e'.queue = e.queue := congrArg Backdrop.queue hbackdrop
  have hgeneration : e'.generation = e.generation := congrArg Backdrop.generation hbackdrop
  have houtcomes : e'.outcomes = e.outcomes := congrArg Backdrop.outcomes hbackdrop
  refine ⟨?_, ?_, ?_, ?_⟩
  · rw [hqueue, hgeneration]
    exact h.known
  · rw [hqueue]
    exact h.nodup
  · rw [hqueue, houtcomes]
    exact h.unheard
  · rw [hgeneration, houtcomes]
    exact h.ahead

theorem Gone.of_backdrop {e e' : Engine ω} {g : Nat} (h : Gone e g)
    (hbackdrop : e'.backdrop = e.backdrop) : Gone e' g := by
  have hqueue : e'.queue = e.queue := congrArg Backdrop.queue hbackdrop
  have hgeneration : e'.generation = e.generation := congrArg Backdrop.generation hbackdrop
  unfold Gone
  rw [hqueue, hgeneration]
  exact h

/-- Taking the first intent from the queue. -/
theorem Orderly.dequeue {e : Engine ω} (h : Orderly e) {i : Intent} {rest : List Intent}
    (hqueue : e.queue = i :: rest) :
    Orderly { e with queue := rest } ∧ Gone { e with queue := rest } i.generation := by
  obtain ⟨hknown, hnodup, hunheard, hahead⟩ := h
  rw [hqueue] at hknown hnodup hunheard
  obtain ⟨hfresh, hrest⟩ := List.nodup_cons.mp hnodup
  refine ⟨⟨fun j hj => hknown j (List.mem_cons_of_mem i hj), hrest,
    fun j hj => hunheard j (List.mem_cons_of_mem i hj), hahead⟩,
    hknown i List.mem_cons_self, fun j hj hsame => ?_⟩
  exact hfresh (hsame ▸ List.mem_map_of_mem hj)

theorem processNext_answered (htell : Steadfast tell) (h : Orderly e) {i : Intent}
    {rest : List Intent} (hqueue : e.queue = i :: rest)
    (hnext : e.processNext (chronicled tell) = some (.ok (), e')) :
    ∃ ev, Answered i ev e e' := by
  have hshelf := process_shelf (chronicled_steadfast htell) { e with queue := rest } i
  obtain ⟨hbefore, hgone⟩ := h.dequeue hqueue
  unfold processNext at hnext
  rw [hqueue] at hnext
  dsimp only at hnext
  rcases process_spec (chronicled tell) { e with queue := rest } i with
    ⟨f, e₁, hprocess, -, -, -⟩ | ⟨ev, e₁, hprocess, hbackdrop, hends⟩
  · rw [hprocess] at hnext
    cases hnext
  · rw [hprocess] at hnext hshelf
    obtain rfl := (Prod.mk.inj (Option.some.inj hnext)).2
    -- The listeners are told in `e₁`; what they leave alone is as it was when the intent was taken
    -- up.
    have haloof := chronicled_steadfast htell ev e₁
    have htold : (chronicled tell ev e₁).own.2 = e₁.own.2 ++ [ev] := rfl
    obtain ⟨hclosing, hstanding⟩ := closing_spec ev (chronicled tell ev e₁)
    generalize chronicled tell ev e₁ = t at haloof htold hclosing hstanding hshelf
    have hown : e₁.own = e.own := congrArg Backdrop.own hbackdrop
    have hbefore₁ : e₁.outcomes = e.outcomes := congrArg Backdrop.outcomes hbackdrop
    have houtcomes : (closing ev t).outcomes = t.outcomes := congrArg Backdrop.outcomes hclosing
    have horderly := (haloof.orderly (hbefore.of_backdrop hbackdrop) nofun).of_backdrop hclosing
    have hgone₁ := (haloof.gone (hgone.of_backdrop hbackdrop)).of_backdrop hclosing
    -- Nothing new has been heard of what was gone, and nothing at all of the intent itself.
    have hsame : ∀ g, Gone { e with queue := rest } g →
        Keyed.get? g (closing ev t).outcomes = Keyed.get? g e.outcomes := by
      intro g hg
      rw [houtcomes, haloof.outcomes g (hg.of_backdrop hbackdrop) List.not_mem_nil, hbefore₁]
    have hunheard : Keyed.get? i.generation (closing ev t).outcomes = none :=
      (hsame _ hgone).trans (h.unheard i (hqueue ▸ List.mem_cons_self))
    have hpath : (closing ev t).trail.currentPath = e₁.trail.currentPath :=
      (congrArg (fun s : Standing => s.trail.currentPath) hstanding).trans haloof.path
    refine ⟨ev, ?_, hends.isFinal.1, hends.isFinal.2, hshelf, ?_, ?_,
      get?_resolve_self hunheard _, ?_⟩
    · have hown' : (closing ev t).own = t.own := congrArg Backdrop.own hclosing
      exact (congrArg Prod.snd hown').trans (by rw [htold, hown])
    · exact hends.path.imp (fun ⟨viewId, params, hev, hthere⟩ =>
        ⟨viewId, params, hev, hpath.trans hthere⟩)
        fun ⟨hev, hhere⟩ => ⟨hev, hpath.trans hhere⟩
    · exact (Aloof.resolve { closing ev t with phase := .idle } i.generation (.event ev)).orderly
        ⟨horderly.known, horderly.nodup, horderly.unheard, horderly.ahead⟩
        (List.forall_mem_singleton.mpr hgone₁)
    · intro g hg
      have hne : g ≠ i.generation := (hg.2 i (hqueue ▸ List.mem_cons_self)).symm
      have hrest : Gone { e with queue := rest } g :=
        ⟨hg.1, fun j hj => hg.2 j (hqueue ▸ List.mem_cons_of_mem i hj)⟩
      exact (get?_resolve_of_ne _ hne _).trans (hsame g hrest)

/-- An intent whose credential cannot be read is lost; nothing is told. -/
theorem processNext_lost (htell : Steadfast tell) {f : Fault} {i : Intent} {rest : List Intent}
    (hqueue : e.queue = i :: rest) (hnext : e.processNext (chronicled tell) = some (.error f, e')) :
    Aloof [] { e with queue := rest } e' ∧ e'.own = e.own := by
  obtain ⟨-, hbackdrop, hstanding⟩ := processNext_error hqueue hnext
  have hshelf := process_shelf (chronicled_steadfast htell) { e with queue := rest } i
  unfold processNext at hnext
  rw [hqueue] at hnext
  dsimp only at hnext
  cases hprocess : process (chronicled tell) { e with queue := rest } i with
  | mk result e₁ =>
    rw [hprocess] at hnext hshelf
    cases result with
    | ok ev => cases hnext
    | error f' =>
      obtain rfl := (Prod.mk.inj (Option.some.inj hnext)).2
      refine ⟨Aloof.of_same hshelf (congrArg (fun s : Standing => s.trail.currentPath) hstanding)
        (congrArg Backdrop.generation hbackdrop) (congrArg Backdrop.queue hbackdrop)
        (congrArg Backdrop.outcomes hbackdrop), congrArg Backdrop.own hbackdrop⟩

end Told

end Engine

end Waypost.Browser
