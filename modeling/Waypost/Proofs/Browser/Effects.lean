import Waypost.Proofs.Browser.Alignment

/-!
# What the end of an intent has changed

* `CarriedOut`, `PutBack` : what has become of the browser and the trail when an intent has been
  carried out, and when a move of the browser has been undone; `NotWritten` : nothing, and why;
* `Effect s refused i s' n ev` : what the event `ev` stands for, with the standing before and after
  it, the writes that the history refused and the number of those that have been tried;
  `Ends.effect` : the ways in which an intent ends are of this kind;
* `process_effects` : so is every turn of the engine, at the moment when its event is told, and at
  its end if those who are told leave it at that.
-/

namespace Waypost.Browser

open Access

namespace Engine

/-- An intent is stamped as it is when it is submitted: with an entry of the browser if it reports a
move, and only then. -/
def Stamped (i : Intent) : Prop :=
  i.historyIndex.isSome = i.trigger.isExternal

theorem stamped_newIntent {ω : Type} (e : Engine ω) (path : String) (trigger : Trigger)
    (replace : Bool) (index : Option Int) :
    Stamped (e.newIntent path trigger replace index) := by
  unfold Stamped newIntent
  by_cases houter : trigger.isExternal
  · simp [houter]
  · simp [houter]

/-- An intent has been carried out: the engine is on its path. A click has been written to the
history, once; of a move of the browser nothing has been written, and the engine is on the entry
that it led to. -/
structure CarriedOut (s : Standing) (i : Intent) (s' : Standing) (writes : Nat) : Prop where
  path : s'.trail.currentPath = i.path
  marked : s'.Marked
  history : s'.history =
    if i.trigger.isExternal then s.history else written s.history i.path (writeOf i)
  writes : writes = if i.trigger.isExternal then 0 else 1
  place : i.trigger.isExternal → i.historyIndex = some (s'.offset + s'.trail.position)

/-- A move of the browser has been undone: the current path has been written over the entry that it
led to, once and while the browser was there. -/
structure PutBack (s : Standing) (i : Intent) (s' : Standing) (writes : Nat) : Prop where
  there : i.historyIndex = some (s.history.index : Int)
  history : s'.history = s.history.replace s.trail.currentPath
  writes : writes = 1
  path : s'.trail.currentPath = s.trail.currentPath
  place : i.historyIndex = some (s'.offset + s'.trail.position)

/-- The history has not been written and nothing is changed. Either the browser has left the entry
that the move led to, so that none was tried, or the history has refused the one write that was: of
the path of a click, or of the current path over the move. -/
structure NotWritten (s : Standing) (refused : Write → Bool) (i : Intent) (s' : Standing)
    (writes : Nat) : Prop where
  same : s' = s
  cause : (i.trigger.isExternal ∧ i.historyIndex ≠ some (s.history.index : Int) ∧ writes = 0) ∨
    (i.trigger.isExternal ∧ i.historyIndex = some (s.history.index : Int) ∧
      refused .replace = true ∧ writes = 1) ∨
    (¬ i.trigger.isExternal ∧ refused (writeOf i) = true ∧ writes = 1)

/-- What an event stands for that an intent ends with, where `refused` says which writes the history
does not take. -/
def Effect (s : Standing) (refused : Write → Bool) (i : Intent) (s' : Standing) (writes : Nat) :
    Event → Prop
  | .settled j _ _ => j = i ∧ CarriedOut s i s' writes
  | .blocked j _ corrected =>
    j = i ∧
      if i.trigger.isExternal then
        corrected = some s.trail.currentPath ∧ PutBack s i s' writes
      else corrected = none ∧ s' = s ∧ writes = 0
  | .failed j f =>
    j = i ∧
      if f.kind = .historyWrite then NotWritten s refused i s' writes
      else if i.trigger.isExternal then PutBack s i s' writes
      else s' = s ∧ writes = 0
  | .superseded .. | .viewLoaded .. | .viewLoadFailed .. => False

variable {ω : Type} {e : Engine ω} {i : Intent} {ev : Event} {s : Standing}

/-! ## The ways to end an intent -/

theorem carriedOut_settled {s : Standing} (hknown : s.trail.position < s.trail.stack.length)
    (hstamp : Stamped i) :
    CarriedOut s i (s.settled i) (if i.trigger.isExternal then 0 else 1) := by
  unfold Standing.settled
  by_cases houter : i.trigger.isExternal
  · obtain ⟨index, hindex⟩ := Option.isSome_iff_exists.mp (hstamp.trans houter)
    rw [if_pos houter, hindex, Option.getD_some]
    refine ⟨rfl, Trail.moved_marked s.trail s.offset index i.path, ?_, rfl, fun _ => ?_⟩
    · rw [if_pos houter]
    · rw [hindex]
      exact congrArg some (Trail.moved_place s.trail s.offset index i.path).symm
  · rw [if_neg houter]
    refine ⟨Trail.committed_currentPath s.trail i, ?_, ?_, rfl, fun h => absurd h houter⟩
    · unfold Standing.Marked
      rw [Trail.committed_currentPath]
      exact Trail.committed_marked hknown i
    · rw [if_neg houter]
      cases hreplace : i.replace <;> simp [written, writeOf, hreplace]

theorem putBack_corrected {s : Standing} (hat : i.historyIndex = some (s.history.index : Int)) :
    PutBack s i (s.corrected i) 1 := by
  refine ⟨hat, rfl, rfl, Trail.moved_currentPath _ _ _ _, ?_⟩
  unfold Standing.corrected
  rw [hat]
  exact congrArg some (Trail.moved_place _ _ _ _).symm

/-- Turning an intent away is said without a word of a write to the history. -/
theorem Refusal.writesFor {say : Option String → Event} (hrefusal : Refusal e i say) (h : History)
    (corrected : Option String) :
    writesFor h i (say corrected) = correctionsOf h i := by
  cases hrefusal with
  | unknown hview => exact if_neg fun h => nomatch h.2
  | denied hview hread hguard => rfl

/-- A move that cannot be undone leaves everything as it is. -/
theorem Undoing.notWritten {refused : Write → Bool} {err : NavigationError}
    (houter : i.trigger.isExternal) (h : Undoing e.standing (refused .replace) i (.error err) s) :
    err.kind = .historyWrite ∧ NotWritten e.standing refused i s (correctionsOf e.history i) := by
  cases h with
  | left hat =>
    have hnone : correctionsOf e.history i = 0 := if_neg fun h => hat h.2
    exact ⟨rfl, rfl, Or.inl ⟨houter, hat, hnone⟩⟩
  | unwritten hat hwrite =>
    have hone : correctionsOf e.history i = 1 := if_pos ⟨houter, hat⟩
    exact ⟨rfl, rfl, Or.inr (Or.inl ⟨houter, hat, hwrite, hone⟩)⟩

/-- An intent that is turned away is not carried out: a move is undone, and of a click nothing
comes. -/
theorem Turned.effect {refused : Write → Bool} {say : Option String → Event}
    (hrefusal : Refusal e i say) (hturned : Turned e.standing (refused .replace) i say ev s) :
    Effect e.standing refused i s (correctionsOf e.history i) ev := by
  cases hturned with
  | dismissed hinner =>
    have hnone : correctionsOf e.history i = 0 := if_neg fun h => hinner h.1
    rw [hnone]
    cases hrefusal with
    | unknown hview =>
      refine ⟨rfl, ?_⟩
      rw [if_neg nofun, if_neg hinner]
      exact ⟨rfl, rfl⟩
    | denied hview hread hguard =>
      refine ⟨rfl, ?_⟩
      rw [if_neg hinner]
      exact ⟨rfl, rfl, rfl⟩
  | undone houter hundoing =>
    cases hundoing with
    | done hat hwrite =>
      have hone : correctionsOf e.history i = 1 := if_pos ⟨houter, hat⟩
      have hback := putBack_corrected hat
      rw [hone]
      cases hrefusal with
      | unknown hview =>
        refine ⟨rfl, ?_⟩
        rw [if_neg nofun, if_pos houter]
        exact hback
      | denied hview hread hguard =>
        refine ⟨rfl, ?_⟩
        rw [if_pos houter]
        exact ⟨rfl, hback⟩
  | stranded houter hundoing =>
    obtain ⟨hkind, hnot⟩ := hundoing.notWritten houter
    exact ⟨rfl, (if_pos hkind).mpr hnot⟩

/-- An intent ends as its event says. -/
theorem Ends.effect (hends : Ends e i ev s) (hknown : e.trail.position < e.trail.stack.length)
    (hstamp : Stamped i) :
    Effect e.standing (e.refuses e.writes) i s (writesFor e.history i ev) ev := by
  cases hends with
  | settled hview hread hguard hwrite => exact ⟨rfl, carriedOut_settled hknown hstamp⟩
  | unwritten err hpermits hinner hwrite hkind =>
    have hone : writesFor e.history i (.failed i (.navigation err)) = 1 := if_pos ⟨hinner, hkind⟩
    exact ⟨rfl, (if_pos hkind).mpr ⟨rfl, Or.inr (Or.inr ⟨hinner, hwrite, hone⟩)⟩⟩
  | refused hrefusal hturned =>
    have hwrites : writesFor e.history i ev = correctionsOf e.history i :=
      writesFor_of_turned hturned (hrefusal.writesFor e.history)
    rw [hwrites]
    exact hturned.effect hrefusal

/-! ## The whole -/

/-- The engine `e'` is `e` after the intent `i` has ended with the event `ev`, as far as the browser
and the trail go. -/
def Dealt (e : Engine ω) (i : Intent) (ev : Event) (e' : Engine ω) : Prop :=
  ∃ n, e'.writes = e.writes + n ∧ Effect e.standing (e.refuses e.writes) i e'.standing n ev

theorem closing_writes (ev : Event) (e : Engine ω) : (closing ev e).writes = e.writes := by
  unfold closing
  split
  · unfold startLoad giveUpLoad
    split_ifs
    · rfl
    · split
      · rfl
      · split
        · rfl
        · split_ifs <;> rfl
  · rfl

/-- Dealing with an intent leaves the engine idle. Unless the credential cannot be read, in which
case nothing else has changed, the intent has ended as its event says by the time when those who
listen are told. What they do is all that is done to the browser and the trail after that. -/
theorem process_effects (tell : Event → Engine ω → Engine ω)
    (hknown : e.trail.position < e.trail.stack.length) (hstamp : Stamped i) :
    (process tell e i).2.phase = .idle ∧
      ((∃ f, e.credential.1 = .error f ∧ (process tell e i).1 = .error f ∧
        (process tell e i).2.standing = e.standing ∧
          (process tell e i).2.writes = e.writes) ∨
        ∃ ev e₁, (process tell e i).1 = .ok ev ∧ Dealt e i ev e₁ ∧
          (process tell e i).2.standing = (tell ev e₁).standing ∧
          (process tell e i).2.writes = (tell ev e₁).writes ∧
          ∀ P, QuietOn P tell → P e.own → Dealt e i ev (process tell e i).2) := by
  refine ⟨rfl, ?_⟩
  rcases process_writes tell e i with
    ⟨f, e₁, hprocess, hread, -, hstanding, hwrites⟩ | ⟨ev, e₁, hprocess, hbackdrop, hends, hwrites⟩
  · rw [hprocess]
    exact Or.inl ⟨f, hread, rfl, hstanding, hwrites⟩
  · right
    have hdealt : Dealt e i ev e₁ := ⟨_, hwrites, hends.effect hknown hstamp⟩
    have hstanding := (closing_spec ev (tell ev e₁)).2
    have hclosing := closing_writes ev (tell ev e₁)
    rw [hprocess]
    refine ⟨ev, e₁, rfl, hdealt, hstanding, hclosing, fun P hquiet hown => ?_⟩
    have hown₁ : e₁.own = e.own := congrArg Backdrop.own hbackdrop
    obtain ⟨own, journal, source, wallet, now, -, htell⟩ := hquiet ev e₁ (by rw [hown₁]; exact hown)
    obtain ⟨n, hn, heffect⟩ := hdealt
    refine ⟨n, ?_, ?_⟩
    · rw [← hn]
      exact hclosing.trans (by rw [htell])
    · have hsame : (closing ev (tell ev e₁)).standing = e₁.standing :=
        hstanding.trans (by rw [htell]; rfl)
      rw [← hsame] at heffect
      exact heffect

/-- A page whose browser has gone back, to items that nobody may see who is not signed in. -/
def backPage : Engine Audience :=
  { midwayPage.start with history := ⟨["/lost", "/items", "/", "/items"], 1⟩ }

/-- The intent that reports this. -/
def backIntent : Intent :=
  backPage.newIntent "/items" .back false (some 1)

theorem process_effects_backPage :
    Dealt backPage backIntent (.blocked backIntent .unauthenticated (some "/"))
      (process tellAll backPage backIntent).2 := by
  have hpassive : backPage.own.Passive := by
    simp [Audience.Passive, backPage, midwayPage, start, Audience.subscribe, Listener.callsBack]
  have hblocked : (process tellAll backPage backIntent).1 =
      .ok (.blocked backIntent .unauthenticated (some "/")) := rfl
  obtain ⟨-, ⟨f, hread, -⟩ | ⟨ev, e₁, hev, -, -, -, hend⟩⟩ :=
    process_effects tellAll (e := backPage) (by decide)
      (backPage.stamped_newIntent "/items" .back false (some 1))
  · cases hread
  · obtain rfl := Except.ok.inj (hev.symm.trans hblocked)
    exact hend _ tellAll_quietOn hpassive

end Engine

end Waypost.Browser
