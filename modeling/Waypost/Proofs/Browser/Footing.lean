import Waypost.Proofs.Browser.Audience
import Waypost.Proofs.Browser.Restart

/-!
# The engine is always on an entry that it knows

A move of the browser may be submitted with any stamp, far behind the known entries or far ahead of
them, and writes to the history may fail.

* `overwrite?`, `Trail.committed?`, `Trail.moved?` : the changes of the trail, where an entry has to
  be there to be written; `Standing.Footed` : none of them fails, and the current path stands at the
  position;
* `Calls` : all that those who listen can make of an engine, by calling back at any depth
  (`tellAll_calls`);
* `Calls.marked` : whatever they do, an engine on an entry that it knows goes on to be on one;
* `life_footed` : so an engine is on one after every life, and whenever it comes to an intent.
-/

namespace Waypost.Browser

open Access Time

/-! ## Entries that must be there -/

/-- Writes a path over an entry, which has to be there. -/
def overwrite? (stack : List String) (place : Int) (path : String) : Option (List String) :=
  if 0 ≤ place ∧ place < stack.length then some (stack.set place.toNat path) else none

theorem overwrite?_natCast {stack : List String} {place : Nat} (h : place < stack.length)
    (path : String) : overwrite? stack place path = some (stack.set place path) := by
  unfold overwrite?
  rw [if_pos ⟨Int.natCast_nonneg place, Int.ofNat_lt.mpr h⟩, Int.toNat_natCast]

namespace Trail

/-- `Trail.committed`, where the position has to be one of a known entry. -/
def committed? (t : Trail) (i : Intent) : Option Trail :=
  if i.replace then (overwrite? t.stack t.position i.path).map fun stack =>
    { t with currentPath := i.path, stack }
  else if t.position < t.stack.length then
    some { t with
      currentPath := i.path
      stack := t.stack.take (t.position + 1) ++ [i.path]
      position := t.position + 1 }
  else none

/-- `Trail.moved`, where the entry that the path is written over has to be there once the gap has
been filled. -/
def moved? (t : Trail) (offset index : Int) (path : String) : Option (Trail × Int) :=
  let place := index - offset
  if place < 0 then
    (overwrite? (List.replicate (-place).toNat path ++ t.stack) 0 path).map fun stack =>
      ({ t with stack, position := 0 }, index)
  else
    let gap :=
      if t.stack.length ≤ place then List.replicate (place - t.stack.length + 1).toNat path else []
    (overwrite? (t.stack ++ gap) place path).map fun stack =>
      ({ t with stack, position := place.toNat }, offset)

theorem committed?_eq {t : Trail} (hknown : t.position < t.stack.length) (i : Intent) :
    t.committed? i = some (t.committed i) := by
  unfold committed? committed
  split_ifs
  · rw [overwrite?_natCast hknown]
    rfl
  · rfl

/-- A move fills the gap first, so it never fails. -/
theorem moved?_eq (t : Trail) (offset index : Int) (path : String) :
    t.moved? offset index path = some (t.moved offset index path) := by
  unfold moved? moved
  dsimp only
  by_cases hbefore : index - offset < 0
  · have hfilled : 0 < (List.replicate (-(index - offset)).toNat path ++ t.stack).length := by
      rw [List.length_append, List.length_replicate]
      omega
    have hwrite := overwrite?_natCast hfilled path
    rw [Int.natCast_zero] at hwrite
    rw [if_pos hbefore, if_pos hbefore, hwrite]
    rfl
  · have hgap : (if t.stack.length ≤ index - offset then List.replicate
        (index - offset - t.stack.length + 1).toNat path
        else []) = List.replicate ((index - offset).toNat + 1 - t.stack.length) path := by
      split_ifs with hbehind
      · rw [show (index - offset - t.stack.length + 1).toNat =
          (index - offset).toNat + 1 - t.stack.length by omega]
      · rw [show (index - offset).toNat + 1 - t.stack.length = 0 by omega, List.replicate_zero]
    have hfilled : (index - offset).toNat <
        (t.stack ++ List.replicate ((index - offset).toNat + 1 - t.stack.length) path).length := by
      rw [List.length_append, List.length_replicate]
      omega
    have hwrite := overwrite?_natCast hfilled path
    rw [Int.toNat_of_nonneg (Int.not_lt.mp hbefore)] at hwrite
    rw [if_neg hbefore, if_neg hbefore, hgap, hwrite]
    rfl

end Trail

/-- The current path stands at the position, and no change of the trail meets with an entry that is
not there. -/
structure Standing.Footed (s : Standing) : Prop where
  known : s.trail.position < s.trail.stack.length
  marked : s.Marked
  committed : ∀ i, s.trail.committed? i = some (s.trail.committed i)
  moved : ∀ index path, s.trail.moved? s.offset index path =
    some (s.trail.moved s.offset index path)

theorem Standing.Marked.footed {s : Standing} (h : s.Marked) : s.Footed := by
  have hknown : s.trail.position < s.trail.stack.length := (List.getElem?_eq_some_iff.mp h).1
  exact ⟨hknown, h, Trail.committed?_eq hknown, Trail.moved?_eq s.trail s.offset⟩

namespace Engine

variable {ω : Type} {tell : Event → Engine ω → Engine ω}

/-! ## What keeps the engine on its entry -/

theorem Ends.marked {e : Engine ω} {i : Intent} {ev : Event} {s : Standing} (hends : Ends e i ev s)
    (h : e.standing.Marked) :
    s.Marked := by
  cases hends with
  | settled hview hread hguard hwrite => exact Standing.marked_settled h
  | unwritten err hpermits hinner hwrite => exact h
  | refused hrefusal hturned =>
    cases hturned with
    | dismissed hinner => exact h
    | undone houter hundoing =>
      cases hundoing with
      | done hat hwrite => exact Standing.marked_corrected i
    | stranded houter hundoing =>
      cases hundoing with
      | left hat => exact h
      | unwritten hat hwrite => exact h

section Told

/-! Those who are told of an event leave the engine on an entry that it knows, if they find it on
one. -/

variable (htell : ∀ ev e, e.standing.Marked → (tell ev e).standing.Marked)

include htell

theorem reportSuperseded_marked (new : Intent) (olds : List Intent) {e : Engine ω}
    (h : e.standing.Marked) :
    (reportSuperseded tell new e olds).standing.Marked := by
  induction olds generalizing e with
  | nil => exact h
  | cons old olds ih =>
    exact ih (htell _ (e.resolve old.generation (.event (.superseded old new))) h)

theorem submit_marked {e : Engine ω} (h : e.standing.Marked) (path : String) (trigger : Trigger)
    (replace : Bool) (index : Option Int) :
    (e.submit tell path trigger replace index).2.standing.Marked := by
  have hreport := reportSuperseded_marked htell (e.newIntent path trigger replace index)
    (e.queue.filter fun old => supersedes (e.newIntent path trigger replace index) old)
    (e := { e with
      generation := e.generation + 1
      queue :=
        e.queue.filter fun old => !supersedes (e.newIntent path trigger replace index) old }) h
  exact hreport

theorem travel_marked {e : Engine ω} (h : e.standing.Marked) (t : Trigger) :
    (e.travel tell t).2.standing.Marked := by
  unfold travel
  split
  · exact h
  · rename_i h' hmove
    dsimp only
    split_ifs
    · exact submit_marked htell (e := { e with history := h' }) h h'.current t false (some h'.index)
    · exact h

theorem processNext_marked {e e' : Engine ω} {i : Intent} {rest : List Intent}
    {r : Except Fault Unit} (h : e.standing.Marked) (hqueue : e.queue = i :: rest)
    (hnext : e.processNext tell = some (r, e')) :
    e'.standing.Marked := by
  cases r with
  | error f =>
    obtain ⟨-, -, hstanding⟩ := processNext_error hqueue hnext
    rw [hstanding]
    exact h
  | ok u =>
    obtain ⟨ev, e₁, -, hends, -, hstanding⟩ := processNext_spec hqueue hnext
    rw [hstanding]
    exact htell ev e₁ (hends.marked h)

theorem lasting_marked :
    Lasting tell (fun _ => True) (fun _ _ => True) fun e => e.standing.Marked where
  submit := fun h _ => submit_marked htell h _ _ _ _
  travel := fun t h => travel_marked htell h t
  credential := fun _ _ h => h
  clock := fun _ h => h
  next := fun h hqueue _ hnext => processNext_marked htell h hqueue hnext

theorem take_marked {e : Engine ω} (h : e.standing.Marked) (t : Turn) :
    (take tell e t).standing.Marked := by
  cases t with
  | step s => exact (lasting_marked htell).perform h trivial [] fun _ _ _ => trivial
  | start =>
    rw [take, Engine.start]
    split_ifs
    · exact h
    · -- The engine begins anew on the one entry that it then knows.
      exact rfl
  | close =>
    rw [take, Engine.close, (giveUpLoad_spec _).2]
    exact h
  | loaded n result =>
    rw [take]
    split_ifs with hloading
    · obtain ⟨l, hload, -⟩ := isLoading_iff.mp hloading
      rcases receive_cases tell e hload result with ⟨-, journal, hreceive⟩ | ⟨journal, hreceive⟩
      · rw [hreceive]
        exact htell (viewEvent l.intent result) { e with journal } h
      · rw [hreceive]
        exact h
    · exact h
  | dropped n => exact h

end Told

/-! ## Calling back -/

/-- What those who listen can make of an engine. They keep things of their own, sign someone in or
out, set the clock and write to the browser's history; and they may take any turn of an engine's
life, where others who listen call back in turn. This is asked of them only where the engine is on
an entry that it knows, for they are told at no other time. -/
inductive Calls : Engine ω → Engine ω → Prop where
  | aside (e : Engine ω) (own : ω) (journal : Journal) (source : Source) (wallet : Wallet)
      (now : Instant)
      (history : History) : Calls e { e with own, journal, source, wallet, now, history }
  | turn {tell : Event → Engine ω → Engine ω}
      (htell : ∀ ev e, e.standing.Marked → Calls e (tell ev e))
      (e : Engine ω) (t : Turn) : Calls e (take tell e t)
  | trans {e₁ e₂ e₃ : Engine ω} (h₁ : Calls e₁ e₂) (h₂ : Calls e₂ e₃) : Calls e₁ e₃

/-- Whoever calls back, and however deep, leaves the engine on an entry that it knows. -/
theorem Calls.marked {e e' : Engine ω} (hcalls : Calls e e') (h : e.standing.Marked) :
    e'.standing.Marked := by
  induction hcalls with
  | aside e own journal source wallet now history => exact h
  | turn htell e t ih =>
    -- The turn tells others of marked engines only, and they keep to it in turn.
    refine take_marked ?_ h t
    intro ev e₁ hmarked
    exact ih ev e₁ hmarked hmarked
  | trans h₁ h₂ ih₁ ih₂ => exact ih₂ (ih₁ h)

/-- Whatever happens to an engine in its life, it is on an entry that it knows, and the current path
stands there: however moves of the browser are stamped, whichever writes fail, whoever calls back,
and however often it is started and closed. So it is whenever it comes to an intent, and no change
of the trail meets with an entry that is not there. -/
theorem life_footed (htell : ∀ ev e, e.standing.Marked → Calls e (tell ev e)) (e : Engine ω)
    (hnew : e.trail = .start e.history.current) (turns : List Turn) :
    (life tell e turns).standing.Footed ∧ ∀ i e', Meets tell e turns i e' → e'.standing.Footed := by
  have hkept : ∀ ev e, e.standing.Marked → (tell ev e).standing.Marked := by
    intro ev e h
    exact (htell ev e h).marked h
  have hfirst : e.standing.Marked := by
    unfold Standing.Marked standing
    rw [hnew]
    rfl
  have hlife : ∀ done : List Turn, (life tell e done).standing.Marked := by
    intro done
    refine life_keeps (I := fun e => e.standing.Marked) (K := fun _ => True) ?_
      (fun _ _ => trivial) hfirst
    intro e t _ h
    exact take_marked hkept h t
  refine ⟨(hlife turns).footed, ?_⟩
  rintro i e' ⟨done, s, rest, rfl, hhandles⟩
  obtain ⟨e₀, waiting, hmarked, -, rfl⟩ :=
    (lasting_marked hkept).handles hhandles (hlife done) (fun _ _ => trivial) fun _ _ _ => trivial
  -- Taking the intent from the queue does not move the engine.
  exact Standing.Marked.footed (s := e₀.standing) hmarked

/-! ## Audiences -/

theorem Calls.refl (e : Engine ω) : Calls e e :=
  .aside e e.own e.journal e.source e.wallet e.now e.history

section Audiences

variable {tell : Event → Engine Audience → Engine Audience}

theorem react_calls (htell : ∀ ev e, e.standing.Marked → Calls e (tell ev e)) (e : Engine Audience)
    (event : Event) (reaction : Reaction) : Calls e (e.react tell event reaction) := by
  cases reaction with
  | fail => exact .aside e e.own _ e.source e.wallet e.now e.history
  | submit path trigger =>
    have hsubmit : Calls e (e.submit tell path trigger false none).2 :=
      .turn htell e (.step (.submit path trigger false none))
    exact hsubmit.trans (.aside _ _ _ _ _ _ _)
  | remove name =>
    unfold react
    dsimp only
    split
    · exact .aside e e.own _ e.source e.wallet e.now e.history
    · exact .aside e _ e.journal e.source e.wallet e.now e.history
  | goBack => exact .turn htell e (.step (.travel .back))
  | become s =>
    unfold react become
    dsimp only
    split
    · exact .aside e e.own e.journal _ e.wallet e.now e.history
    · exact .refl e

theorem tellOne_calls (htell : ∀ ev e, e.standing.Marked → Calls e (tell ev e)) (event : Event)
    (e : Engine Audience) (l : Listener) : Calls e (tellOne tell event e l) := by
  unfold tellOne
  split
  · exact .aside e _ e.journal e.source e.wallet e.now e.history
  · rename_i on reaction hrole
    split_ifs
    · split
      · exact .refl e
      · rename_i own hspend
        have hheard : Calls e { e with own := own.hears (.acted l.name event) } :=
          .aside e _ e.journal e.source e.wallet e.now e.history
        exact hheard.trans (react_calls htell _ event reaction)
    · exact .refl e

theorem foldl_tellOne_calls (htell : ∀ ev e, e.standing.Marked → Calls e (tell ev e))
    (event : Event) (ls : List Listener) (e : Engine Audience) :
    Calls e (ls.foldl (tellOne tell event) e) := by
  induction ls generalizing e with
  | nil => exact .refl e
  | cons l ls ih => exact (tellOne_calls htell event e l).trans (ih _)

theorem tellFor_calls (depth : Nat) (event : Event) (e : Engine Audience) :
    Calls e (tellFor depth event e) := by
  induction depth generalizing event e with
  | zero => exact .refl e
  | succ depth ih => exact foldl_tellOne_calls (fun ev e _ => ih ev e) event e.own.listeners e

/-- Every audience does only what those who listen can. -/
theorem tellAll_calls (event : Event) (e : Engine Audience) : Calls e (tellAll event e) :=
  tellFor_calls (e.own.budget + 1) event e

end Audiences

/-- A page that is opened on the second of three entries, in a browser that refuses every second
write, with one who goes back whenever an intent settles, at most twice. -/
def unsteadyPage : Engine Audience where
  views :=
    [Route.Call.add "GET" "/" "home" .anonymous none,
      .add "GET" "/items" "items.list" .authenticated none].foldl
      Route.Table.perform .empty
  history := ⟨["/", "/items", "/lost"], 1⟩
  refuses := fun n _ => n % 2 == 1
  now := 0
  own := ({} : Audience).subscribe "restless" (.act (some "Settled") .goBack) 2

/-- Moves with stamps before the first entry and behind the last, the first of them before the
engine is started. -/
def unsteadyVisit : List Turn :=
  [.step (.submit "/" .back true (some (-3))), .step .next, .start,
    .step (.credential (.given (some ⟨"t", .authenticated, 10, "u"⟩)) {}),
    .step (.submit "/items" .forward false (some 7)), .step (.process 5), .close, .step (.clock 10),
    .step (.travel .forward), .start, .step (.submit "/items" .userClick true none),
    .step (.process 1)]

theorem life_footed_unsteadyVisit :
    (life tellAll unsteadyPage unsteadyVisit).standing.Footed ∧
      ∃ i e', Meets tellAll unsteadyPage unsteadyVisit i e' ∧ i.historyIndex = some 7 ∧
        e'.standing.Footed := by
  have h := life_footed (fun ev e _ => tellAll_calls ev e) unsteadyPage rfl unsteadyVisit
  have hmeets : Meets tellAll unsteadyPage unsteadyVisit _ _ :=
    ⟨unsteadyVisit.take 5, .process 5, unsteadyVisit.drop 6, rfl, .process (.first rfl)⟩
  exact ⟨h.1, _, _, hmeets, rfl, h.2 _ _ hmeets⟩

end Engine

end Waypost.Browser
