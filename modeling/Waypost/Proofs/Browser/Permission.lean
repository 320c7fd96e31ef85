import Waypost.Proofs.Browser.Audience
import Waypost.Proofs.Browser.Run
import Waypost.Proofs.Route.Registration

/-!
# Paths and permission

A path comes to the engine and to the browser by an intent that was permitted at the moment it was
dealt with, or it was there at the start. Earlier permission counts for nothing, and neither do
stamps that no move of the browser has given.

* `Vouched G B` : `G` holds of all paths of the trail and `B` of all paths of the history;
* `Ends.vouched` : the outcomes of an intent keep this, if the path of a permitted one is good;
* `run_vouched` : so does a whole run, whatever is submitted and whoever listens;
* `Granted` : a run deals with an intent for a path, and it is permitted at that moment.
-/

namespace Waypost.Browser

open Access Time

/-! ## The paths of the history -/

namespace History

theorem mem_push {h : History} {path p : String} (hp : p ∈ (h.push path).entries) :
    p ∈ h.entries ∨ p = path := by
  rcases List.mem_append.mp hp with hp | hp
  · exact Or.inl (List.mem_of_mem_take hp)
  · exact Or.inr (List.mem_singleton.mp hp)

theorem mem_replace {h : History} {path p : String} (hp : p ∈ (h.replace path).entries) :
    p ∈ h.entries ∨ p = path :=
  List.mem_or_eq_of_mem_set hp

end History

/-- All paths of the trail are good, and all paths of the history bearable. -/
structure Vouched (G B : String → Prop) (s : Standing) : Prop where
  current : G s.trail.currentPath
  stack : ∀ p ∈ s.trail.stack, G p
  entries : ∀ p ∈ s.history.entries, B p

namespace Standing

variable {G B : String → Prop}

/-! ## The outcomes of an intent -/

theorem vouched_settled {s : Standing} {i : Intent} (hGB : ∀ p, G p → B p) (hgood : G i.path)
    (h : Vouched G B s) :
    Vouched G B (s.settled i) := by
  have hstack : ∀ {p}, p ∈ s.trail.stack ∨ p = i.path → G p := by
    rintro p (hp | rfl)
    · exact h.stack p hp
    · exact hgood
  have hentries : ∀ {p}, p ∈ s.history.entries ∨ p = i.path → B p := by
    rintro p (hp | rfl)
    · exact h.entries p hp
    · exact hGB _ hgood
  unfold settled
  split_ifs
  · exact ⟨hgood, fun p hp => hstack (Trail.mem_moved hp), h.entries⟩
  · exact ⟨(Trail.committed_currentPath s.trail i).symm ▸ hgood,
      fun p hp => hstack (Trail.mem_committed hp), fun p hp => hentries (History.mem_replace hp)⟩
  · exact ⟨(Trail.committed_currentPath s.trail i).symm ▸ hgood,
      fun p hp => hstack (Trail.mem_committed hp), fun p hp => hentries (History.mem_push hp)⟩

theorem vouched_corrected {s : Standing} {i : Intent} (hGB : ∀ p, G p → B p) (h : Vouched G B s) :
    Vouched G B (s.corrected i) := by
  refine ⟨?_, ?_, ?_⟩
  · unfold corrected
    rw [Trail.moved_currentPath]
    exact h.current
  · intro p hp
    rcases Trail.mem_moved hp with hp | rfl
    · exact h.stack p hp
    · exact h.current
  · intro p hp
    rcases History.mem_replace hp with hp | rfl
    · exact h.entries p hp
    · exact hGB _ h.current

end Standing

namespace Engine

variable {ω : Type} {tell : Event → Engine ω → Engine ω} {G B : String → Prop}

theorem Ends.vouched {e : Engine ω} {i : Intent} {ev : Event} {s : Standing} (hends : Ends e i ev s)
    (hGB : ∀ p, G p → B p) (hgood : e.Permits i → G i.path) (h : Vouched G B e.standing) :
    Vouched G B s := by
  cases hends with
  | settled hview hread hguard hwrite =>
    exact Standing.vouched_settled hGB (hgood ⟨_, _, _, hview, hread, hguard⟩) h
  | unwritten err hpermits hinner hwrite => exact h
  | refused hrefusal hturned =>
    cases hturned with
    | dismissed hinner => exact h
    | undone houter hundoing =>
      cases hundoing
      exact Standing.vouched_corrected hGB h
    | stranded houter hundoing =>
      cases hundoing with
      | left hat => exact h
      | unwritten hat hwrite => exact h

/-- Only a permitted intent is settled. -/
theorem Ends.permits {e : Engine ω} {i j : Intent} {viewId : String}
    {params : List (String × String)} {s : Standing}
    (hends : Ends e i (.settled j viewId params) s) : e.Permits i := by
  cases hends with
  | settled hview hread hguard hwrite => exact ⟨_, _, _, hview, hread, hguard⟩
  | refused hrefusal hturned =>
    generalize hev : Event.settled j viewId params = ev at hturned
    cases hrefusal with
    | unknown hview => cases hturned <;> simp at hev
    | denied hview hread hguard => cases hturned <;> simp at hev

theorem permits_of_settled {e : Engine ω} {i j : Intent} {viewId : String}
    {params : List (String × String)} (h : (process tell e i).1 = .ok (.settled j viewId params)) :
    e.Permits i := by
  rcases process_spec tell e i with ⟨f, e₁, hprocess, -, -, -⟩ | ⟨ev, e₁, hprocess, -, hends⟩
  · rw [hprocess] at h
    simp at h
  · rw [hprocess] at h
    rw [Except.ok.inj h] at hends
    exact hends.permits

/-! ## Runs -/

theorem Untouched.vouched {e e' : Engine ω} (huntouched : Untouched e e')
    (h : Vouched G B e.standing) :
    Vouched G B e'.standing := by
  obtain ⟨hentries, htrail⟩ := huntouched
  refine ⟨?_, ?_, ?_⟩
  · rw [htrail]
    exact h.current
  · rw [htrail]
    exact h.stack
  · intro p hp
    exact h.entries p (hentries ▸ hp)

theorem processNext_vouched (htell : Harmless tell) (hGB : ∀ p, G p → B p) {e e' : Engine ω}
    {r : Except Fault Unit}
    (hgood : ∀ i rest, e.queue = i :: rest → Permits { e with queue := rest } i → G i.path)
    (hnext : e.processNext tell = some (r, e')) (h : Vouched G B e.standing) :
    Vouched G B e'.standing := by
  obtain ⟨i, rest, hqueue⟩ := exists_cons_of_processNext hnext
  cases r with
  | error f =>
    rw [(processNext_error hqueue hnext).2.2]
    exact h
  | ok u =>
    obtain ⟨ev, e₁, -, hends, -, hstanding⟩ := processNext_spec hqueue hnext
    rw [hstanding]
    exact (htell ev e₁).vouched (hends.vouched hGB (hgood i rest hqueue) h)

theorem processFor_vouched (htell : Harmless tell) (hGB : ∀ p, G p → B p) (fuel n : Nat)
    (e : Engine ω) (hgood : ∀ i e', TakesUp tell fuel e i e' → e'.Permits i → G i.path)
    (h : Vouched G B e.standing) :
    Vouched G B (processFor tell fuel n e).2.standing := by
  induction fuel generalizing n e with
  | zero => exact h
  | succ fuel ih =>
    have hfirst : ∀ i rest, e.queue = i :: rest → Permits { e with queue := rest } i → G i.path :=
      fun i rest hqueue => hgood i _ (.first hqueue)
    unfold processFor
    split
    · exact h
    · rename_i hnext
      exact processNext_vouched htell hGB hfirst hnext h
    · rename_i e' hnext
      exact ih (n + 1) e' (fun i e'' htakes => hgood i e'' (.later hnext htakes))
        (processNext_vouched htell hGB hfirst hnext h)

theorem perform_vouched (htell : Harmless tell) (hGB : ∀ p, G p → B p) (e : Engine ω) (s : Step)
    (steps : List Step) (hgood : ∀ i e', Handles tell e (s :: steps) i e' → e'.Permits i → G i.path)
    (h : Vouched G B e.standing) :
    Vouched G B (e.perform tell s).2.standing := by
  cases s with
  | submit path trigger replace index =>
    exact (submit_harmless htell e path trigger replace index).vouched h
  | travel t => exact (travel_harmless htell e t).vouched h
  | next =>
    unfold perform
    cases hnext : e.processNext tell with
    | none => exact h
    | some result =>
      exact processNext_vouched htell hGB (fun i rest hqueue => hgood i _ (.next hqueue)) hnext h
  | process more =>
    exact processFor_vouched htell hGB _ 0 e (fun i e' htakes => hgood i e' (.process htakes)) h
  | credential source wallet => exact ⟨h.current, h.stack, h.entries⟩
  | clock now => exact ⟨h.current, h.stack, h.entries⟩

theorem run_vouched (htell : Harmless tell) (hGB : ∀ p, G p → B p) (steps : List Step)
    (e : Engine ω) (hgood : ∀ i e', Handles tell e steps i e' → e'.Permits i → G i.path)
    (h : Vouched G B e.standing) :
    Vouched G B (run tell e steps).standing := by
  induction steps generalizing e with
  | nil => exact h
  | cons s steps ih =>
    exact ih (e.perform tell s).2 (fun i e' hhandles => hgood i e' (.later hhandles))
      (perform_vouched htell hGB e s steps hgood h)

/-- A run deals with an intent for a path, and it is permitted at that moment. -/
def Granted (tell : Event → Engine ω → Engine ω) (e : Engine ω) (steps : List Step)
    (path : String) : Prop :=
  ∃ i e', Handles tell e steps i e' ∧ i.path = path ∧ e'.Permits i

/-- After every run from the start of an engine, the path that it is on and those of its trail are
the one that the browser showed at the start, or granted; those of the history were there at the
start, or are granted. An intent that the run deals with is settled only if it is permitted then. -/
theorem run_granted (htell : Harmless tell) (e : Engine ω) (hclosed : e.listening = false)
    (hinside : e.history.index < e.history.entries.length) (steps : List Step) :
    (∀ p, p = (run tell e.start steps).trail.currentPath ∨
      p ∈ (run tell e.start steps).trail.stack →
        p = e.history.current ∨ Granted tell e.start steps p) ∧
      (∀ p ∈ (run tell e.start steps).history.entries, p ∈ e.history.entries ∨
        Granted tell e.start steps p) ∧
      ∀ i e' j viewId params, Handles tell e.start steps i e' →
        (process tell e' i).1 = .ok (.settled j viewId params) → e'.Permits i := by
  have hcurrent : e.history.current ∈ e.history.entries := by
    unfold History.current
    rw [List.getD_eq_getElem?_getD, List.getElem?_eq_getElem hinside]
    exact List.getElem_mem hinside
  have hstart : Vouched (fun p => p = e.history.current ∨ Granted tell e.start steps p)
      (fun p => p ∈ e.history.entries ∨ Granted tell e.start steps p) e.start.standing := by
    unfold start
    rw [if_neg (by simp [hclosed])]
    exact ⟨Or.inl rfl, fun p hp => Or.inl (List.mem_singleton.mp hp), fun p hp => Or.inl hp⟩
  have hGB : ∀ p, p = e.history.current ∨ Granted tell e.start steps p →
      p ∈ e.history.entries ∨ Granted tell e.start steps p := by
    rintro p (rfl | hgranted)
    · exact Or.inl hcurrent
    · exact Or.inr hgranted
  have hrun := run_vouched htell hGB steps e.start
    (fun i e' hhandles hpermits => Or.inr ⟨i, e', hhandles, rfl, hpermits⟩) hstart
  refine ⟨?_, hrun.entries, fun i e' j viewId params _ hsettled => permits_of_settled hsettled⟩
  rintro p (rfl | hp)
  · exact hrun.current
  · exact hrun.stack p hp

/-- A page that is opened in the middle of a history, with one who goes back whenever the page has
gone somewhere, twice at most. -/
def reopenedPage : Engine Audience where
  views :=
    [Route.Call.add "GET" "/" "home" .anonymous none,
      .add "GET" "/items" "items.list" .authenticated none].foldl
      Route.Table.perform .empty
  history := ⟨["/", "/items", "/lost"], 1⟩
  now := 0
  own := ({} : Audience).subscribe "restless" (.act (some "Settled") .goBack) 2

/-- Moves with stamps that no move of the browser has given, by someone whose session ends
meanwhile. -/
def forgedVisit : List Step :=
  [.submit "/" .back true (some (-3)), .next,
    .credential (.given (some ⟨"t", .authenticated, 10, "u"⟩)) {},
    .submit "/items" .forward false (some 7), .process 5, .clock 10, .travel .forward,
    .submit "/items" .userClick true none, .process 1]

theorem run_granted_reopenedPage :
    (∀ p, p = (run tellAll reopenedPage.start forgedVisit).trail.currentPath ∨
          p ∈ (run tellAll reopenedPage.start forgedVisit).trail.stack →
        p = "/items" ∨ Granted tellAll reopenedPage.start forgedVisit p) ∧
      ∀ p ∈ (run tellAll reopenedPage.start forgedVisit).history.entries,
        p ∈ ["/", "/items", "/lost"] ∨ Granted tellAll reopenedPage.start forgedVisit p := by
  have h := run_granted tellAll_harmless reopenedPage rfl (by decide) forgedVisit
  exact ⟨h.1, h.2.1⟩

end Engine

end Waypost.Browser
