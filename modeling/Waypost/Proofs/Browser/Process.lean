import Mathlib.Logic.Basic
import Mathlib.Tactic.SplitIfs
import Waypost.Browser.Engine
import Waypost.Proofs.Browser.Trail

/-!
# What dealing with an intent can do

* `Standing` : where the browser and the engine stand, that is the history, the trail and the
  browser's index of its first entry;
* `Backdrop` : the parts of an engine that dealing with an intent leaves alone until those who
  listen are told;
* `Permits` : the view of an intent is known and the guard lets the one who is signed in see it;
* `Ends e i ev s` : the ways in which the engine `e` may deal with the intent `i`, with the event
  and the standing of each;
* `process_spec` : `process` reads the credential in vain, or it ends the intent in one of these
  ways, tells of it and then closes; `process_writes` : and it tries as many writes to the history
  as `writesFor` says.
-/

namespace Waypost.Browser

open Access Time

/-- Where the browser and the engine stand. What waits is left out of the trail. -/
structure Standing where
  history : History
  trail : Trail
  offset : Int
deriving DecidableEq, Repr

namespace Standing

/-- The standing after an intent has been carried out. -/
def settled (s : Standing) (i : Intent) : Standing :=
  if i.trigger.isExternal then
    let (trail, offset) := s.trail.moved s.offset (i.historyIndex.getD 0) i.path
    ⟨s.history, { trail with currentPath := i.path }, offset⟩
  else
    ⟨if i.replace then s.history.replace i.path else s.history.push i.path,
      s.trail.committed i, s.offset⟩

/-- The standing after a move of the browser has been undone. -/
def corrected (s : Standing) (i : Intent) : Standing :=
  let (trail, offset) := s.trail.moved s.offset (i.historyIndex.getD 0) s.trail.currentPath
  ⟨s.history.replace s.trail.currentPath, trail, offset⟩

end Standing

/-- The parts of an engine that dealing with an intent leaves alone until those who listen are
told. -/
structure Backdrop (ω : Type) where
  views : Route.Table
  guard : Level → Option Session → Instant → Verdict
  refuses : Nat → Write → Bool
  source : Source
  now : Instant
  queue : List Intent
  generation : Nat
  outcomes : List (Nat × Outcome)
  listening : Bool
  own : ω

namespace Engine

variable {ω : Type}

/-- Where an engine stands. -/
def standing (e : Engine ω) : Standing :=
  ⟨e.history, { e.trail with pending := none }, e.offset⟩

/-- What an engine stands before. -/
def backdrop (e : Engine ω) : Backdrop ω :=
  ⟨e.views, e.guard, e.refuses, e.source, e.now, e.queue, e.generation, e.outcomes,
    e.listening, e.own⟩

/-! ## Permission and the ways to end an intent -/

/-- The view of an intent is known, and the guard lets the one who is signed in see it now. -/
def Permits (e : Engine ω) (i : Intent) : Prop :=
  ∃ entry params session, e.views.lookup "GET" i.path = .matched entry params ∧
    e.credential.1 = .ok session ∧ e.guard entry.level session e.now = .allowed

/-- How a settled intent is written to the browser's history. -/
def writeOf (i : Intent) : Write :=
  if i.replace then .replace else .push

/-- The ways in which undoing a move of the browser ends, where `refused` says that the history
takes no new path. -/
inductive Undoing (s : Standing) (refused : Bool) (i : Intent) :
    Except NavigationError String → Standing → Prop where
  | done (hat : i.historyIndex = some (s.history.index : Int)) (hwrite : refused = false) :
      Undoing s refused i (.ok s.trail.currentPath) (s.corrected i)
  | left (hat : i.historyIndex ≠ some (s.history.index : Int)) :
      Undoing s refused i (.error (.leftEntry (i.historyIndex.getD 0) s.history.index)) s
  | unwritten (hat : i.historyIndex = some (s.history.index : Int)) (hwrite : refused = true) :
      Undoing s refused i (.error (.cannotReplace s.trail.currentPath)) s

/-- The ways in which a refused intent ends, where `say` gives the event for the path that was
written over a move of the browser. -/
inductive Turned (s : Standing) (refused : Bool) (i : Intent) (say : Option String → Event) :
    Event → Standing → Prop where
  | dismissed (hinner : ¬ i.trigger.isExternal) : Turned s refused i say (say none) s
  | undone {path : String} {s' : Standing} (houter : i.trigger.isExternal)
      (h : Undoing s refused i (.ok path) s') : Turned s refused i say (say (some path)) s'
  | stranded {err : NavigationError} {s' : Standing} (houter : i.trigger.isExternal)
      (h : Undoing s refused i (.error err) s') :
      Turned s refused i say (.failed i (.navigation err)) s'

/-- The reasons to refuse an intent, with the event that says so. -/
inductive Refusal (e : Engine ω) (i : Intent) : (Option String → Event) → Prop where
  | unknown (hview : ∀ entry params, e.views.lookup "GET" i.path ≠ .matched entry params) :
      Refusal e i fun _ => .failed i (.navigation (.noView i.path))
  | denied {entry : Route.Entry} {params : List (String × String)} {session : Option Session}
      (hview : e.views.lookup "GET" i.path = .matched entry params)
      (hread : e.credential.1 = .ok session)
      (hguard : e.guard entry.level session e.now ≠ .allowed) :
      Refusal e i fun corrected => .blocked i (e.guard entry.level session e.now) corrected

/-- The ways in which an intent ends. -/
inductive Ends (e : Engine ω) (i : Intent) : Event → Standing → Prop where
  | settled {entry : Route.Entry} {params : List (String × String)} {session : Option Session}
      (hview : e.views.lookup "GET" i.path = .matched entry params)
      (hread : e.credential.1 = .ok session)
      (hguard : e.guard entry.level session e.now = .allowed)
      (hwrite : i.trigger.isExternal ∨ e.refuses e.writes (writeOf i) = false) :
      Ends e i (.settled i entry.handlerId params) (e.standing.settled i)
  | unwritten (err : NavigationError) (hpermits : e.Permits i) (hinner : ¬ i.trigger.isExternal)
      (hwrite : e.refuses e.writes (writeOf i) = true) (hkind : err.kind = .historyWrite) :
      Ends e i (.failed i (.navigation err)) e.standing
  | refused {say : Option String → Event} {ev : Event} {s : Standing} (hrefusal : Refusal e i say)
      (hturned : Turned e.standing (e.refuses e.writes .replace) i say ev s) : Ends e i ev s

/-! ## Writing -/

/-- The history after a path has been written to it. -/
def written (h : History) (path : String) : Write → History
  | .push => h.push path
  | .replace => h.replace path

theorem write_of_accepted {e : Engine ω} {w : Write} (path : String)
    (h : e.refuses e.writes w = false) :
    e.write w path =
      (.ok (), { e with writes := e.writes + 1, history := written e.history path w }) := by
  cases w <;> simp [write, written, h]

theorem write_of_refused {e : Engine ω} {w : Write} (path : String)
    (h : e.refuses e.writes w = true) :
    ∃ err : NavigationError, e.write w path = (.error err, { e with writes := e.writes + 1 }) ∧
      err.kind = .historyWrite := by
  cases w
  · exact ⟨.cannotPush path, by simp [write, h], rfl⟩
  · exact ⟨.cannotReplace path, by simp [write, h], rfl⟩

/-- How many writes to the history it takes to turn an intent away: one to undo a move of the
browser that is still where it led. -/
def correctionsOf (h : History) (i : Intent) : Nat :=
  if i.trigger.isExternal ∧ i.historyIndex = some (h.index : Int) then 1 else 0

/-- How many writes to the history are tried for an intent that ends with an event. -/
def writesFor (h : History) (i : Intent) : Event → Nat
  | .settled .. => if i.trigger.isExternal then 0 else 1
  | .failed _ f => if ¬ i.trigger.isExternal ∧ f.kind = .historyWrite then 1 else correctionsOf h i
  | _ => correctionsOf h i

/-- Writing a settled intent and taking it into the trail. -/
theorem writeIntent_spec (e : Engine ω) (i : Intent) :
    (∃ e', e.writeIntent i = (.ok (), e') ∧ (e'.settleTrail i).backdrop = e.backdrop ∧
        (e'.settleTrail i).standing = e.standing.settled i ∧
        (i.trigger.isExternal ∨ e.refuses e.writes (writeOf i) = false) ∧
        (e'.settleTrail i).writes = e.writes + if i.trigger.isExternal then 0 else 1) ∨
      (∃ err e', e.writeIntent i = (.error err, e') ∧ e'.backdrop = e.backdrop ∧
        e'.standing = e.standing ∧ ¬ i.trigger.isExternal ∧ e.refuses e.writes (writeOf i) = true ∧
        e'.writes = e.writes + 1 ∧ err.kind = .historyWrite) := by
  unfold writeIntent settleTrail
  by_cases houter : i.trigger.isExternal
  · left
    simp only [if_pos houter]
    refine ⟨e, rfl, rfl, ?_, Or.inl houter, rfl⟩
    simp [standing, placeAt, Standing.settled, houter, Trail.moved_pending]
  · simp only [if_neg houter]
    rw [show (if i.replace then Write.replace else Write.push) = writeOf i from rfl]
    cases hrefused : e.refuses e.writes (writeOf i) with
    | true =>
      right
      obtain ⟨err, hwrite, hkind⟩ := write_of_refused i.path hrefused
      exact ⟨err, _, hwrite, rfl, rfl, houter, rfl, rfl, hkind⟩
    | false =>
      left
      refine ⟨_, write_of_accepted i.path hrefused, rfl, ?_, Or.inr rfl, rfl⟩
      cases hreplace : i.replace <;>
        simp [standing, Standing.settled, houter, writeOf, hreplace, written,
          Trail.committed_pending]

theorem compensate_spec (e : Engine ω) {i : Intent} (houter : i.trigger.isExternal) :
    (e.compensate i).2.backdrop = e.backdrop ∧
      Undoing e.standing (e.refuses e.writes .replace) i (e.compensate i).1
        (e.compensate i).2.standing ∧
      (e.compensate i).2.writes = e.writes + correctionsOf e.history i := by
  unfold compensate correctionsOf
  split_ifs with hat hcorrects hcorrects
  · exact absurd hcorrects.2 hat
  · exact ⟨rfl, .left hat, rfl⟩
  · cases hwrite : e.refuses e.writes .replace with
    | true =>
      simp only [write, hwrite]
      exact ⟨rfl, .unwritten hcorrects.2 rfl, trivial⟩
    | false =>
      simp only [write, hwrite]
      refine ⟨rfl, ?_, rfl⟩
      have hstanding : standing (placeAt
          { e with writes := e.writes + 1, history := e.history.replace e.trail.currentPath } i
          e.trail.currentPath) = e.standing.corrected i := by
        simp [standing, placeAt, Standing.corrected, Trail.moved_pending]
      rw [hstanding]
      exact .done hcorrects.2 rfl
  · exact absurd ⟨houter, not_not.mp hat⟩ hcorrects

/-! ## Telling -/

/-- What is done for an intent once those who listen have been told: a settled one begins to load
its view. -/
def closing (ev : Event) (e : Engine ω) : Engine ω :=
  match ev with
  | .settled i viewId params => e.startLoad i viewId params
  | _ => e

theorem giveUpLoad_spec (e : Engine ω) :
    e.giveUpLoad.backdrop = e.backdrop ∧ e.giveUpLoad.standing = e.standing := by
  unfold giveUpLoad
  split
  · exact ⟨rfl, rfl⟩
  · split
    · exact ⟨rfl, rfl⟩
    · split_ifs
      · exact ⟨rfl, rfl⟩
      · exact ⟨rfl, rfl⟩

theorem closing_spec (ev : Event) (e : Engine ω) :
    (closing ev e).backdrop = e.backdrop ∧ (closing ev e).standing = e.standing := by
  unfold closing
  split
  · unfold startLoad
    split_ifs
    · exact ⟨rfl, rfl⟩
    · exact e.giveUpLoad_spec
  · exact ⟨rfl, rfl⟩

/-- `finish` tells of the event in an engine that stands where it stood. -/
theorem finish_spec (tell : Event → Engine ω → Engine ω) (e : Engine ω) (ev : Event) :
    ∃ e₁, e.finish tell ev = (ev, tell ev e₁) ∧ e₁.backdrop = e.backdrop ∧
      e₁.standing = e.standing ∧ e₁.writes = e.writes :=
  ⟨_, rfl, rfl, rfl, rfl⟩

/-- The end of a refused intent: `say` gives the event for the path that was written over a move of
the browser. -/
def turn (tell : Event → Engine ω → Engine ω) (e : Engine ω) (i : Intent)
    (say : Option String → Event) : Event × Engine ω :=
  if !i.trigger.isExternal then e.finish tell (say none)
  else
    match e.compensate i with
    | (.error err, e) => (e.uncorrected i err).finish tell (.failed i (.navigation err))
    | (.ok path, e) => e.finish tell (say (some path))

theorem turn_spec (tell : Event → Engine ω → Engine ω) (e : Engine ω) (i : Intent)
    (say : Option String → Event) :
    ∃ ev e₁, turn tell e i say = (ev, tell ev e₁) ∧ e₁.backdrop = e.backdrop ∧
      Turned e.standing (e.refuses e.writes .replace) i say ev e₁.standing ∧
      e₁.writes = e.writes + correctionsOf e.history i := by
  unfold turn
  split_ifs with hinner
  · have hnot : ¬ i.trigger.isExternal := by simpa using hinner
    refine ⟨_, _, rfl, rfl, .dismissed hnot, ?_⟩
    rw [correctionsOf, if_neg fun h => hnot h.1]
    rfl
  · have houter : i.trigger.isExternal := by simpa using hinner
    obtain ⟨hbackdrop, hundoing, hwrites⟩ := e.compensate_spec houter
    cases h : e.compensate i with
    | mk result e' =>
      rw [h] at hbackdrop hundoing hwrites
      cases result with
      | error err => exact ⟨_, _, rfl, hbackdrop, .stranded houter hundoing, hwrites⟩
      | ok path => exact ⟨_, _, rfl, hbackdrop, .undone houter hundoing, hwrites⟩

theorem closing_of_turned {s s' : Standing} {refused : Bool} {i : Intent}
    {say : Option String → Event} {ev : Event} (h : Turned s refused i say ev s')
    (hsay : ∀ corrected e, closing (say corrected) e = (e : Engine ω)) (e : Engine ω) :
    closing ev e = e := by
  cases h with
  | dismissed hinner => exact hsay none e
  | undone houter h => exact hsay _ e
  | stranded houter h => rfl

/-- Whichever event turns an intent away, it takes as many writes, if it says nothing of a write
itself. -/
theorem writesFor_of_turned {s s' : Standing} {refused : Bool} {i : Intent}
    {say : Option String → Event} {ev : Event} (h : Turned s refused i say ev s')
    (hsay : ∀ corrected, writesFor s.history i (say corrected) = correctionsOf s.history i) :
    writesFor s.history i ev = correctionsOf s.history i := by
  cases h with
  | dismissed hinner => exact hsay none
  | undone houter h => exact hsay _
  | stranded houter h => exact if_neg fun hnot => hnot.1 houter

theorem block_spec (tell : Event → Engine ω → Engine ω) (e : Engine ω) (i : Intent)
    (reason : Verdict) (required : Level) :
    ∃ ev e₁, e.block tell i reason required = (ev, closing ev (tell ev e₁)) ∧
      e₁.backdrop = e.backdrop ∧
      Turned e.standing (e.refuses e.writes .replace) i
        (fun corrected => .blocked i reason corrected) ev e₁.standing ∧
      e₁.writes = e.writes + writesFor e.history i ev := by
  obtain ⟨ev, e₁, hturn, hbackdrop, hturned, hwrites⟩ :=
    turn_spec tell ({ e with phase := .blocked }.log .info
      ("Navigation to " ++ i.path ++ " blocked (" ++ reason.name ++ ", needs " ++
        required.label ++ ")")) i
      fun corrected => .blocked i reason corrected
  refine ⟨ev, e₁, ?_, hbackdrop, hturned, ?_⟩
  · rw [closing_of_turned hturned fun _ _ => rfl]
    exact hturn
  · rw [hwrites]
    exact congrArg (e.writes + ·) (writesFor_of_turned hturned fun _ => rfl).symm

theorem failUnknown_spec (tell : Event → Engine ω → Engine ω) (e : Engine ω) (i : Intent) :
    ∃ ev e₁, e.failUnknown tell i = (ev, closing ev (tell ev e₁)) ∧ e₁.backdrop = e.backdrop ∧
      Turned e.standing (e.refuses e.writes .replace) i
        (fun _ => .failed i (.navigation (.noView i.path))) ev
        e₁.standing ∧ e₁.writes = e.writes + writesFor e.history i ev := by
  obtain ⟨ev, e₁, hturn, hbackdrop, hturned, hwrites⟩ :=
    turn_spec tell (e.log .debug ("No view for " ++ i.path)) i
      fun _ => .failed i (.navigation (.noView i.path))
  refine ⟨ev, e₁, ?_, hbackdrop, hturned, ?_⟩
  · rw [closing_of_turned hturned fun _ _ => rfl]
    exact hturn
  · rw [hwrites]
    have hsay : ∀ _ : Option String,
        writesFor e.history i (.failed i (.navigation (.noView i.path))) =
        correctionsOf e.history i := fun _ => if_neg fun h => nomatch h.2
    exact congrArg (e.writes + ·) (writesFor_of_turned hturned hsay).symm

/-- An intent that the guard allows is settled, or it cannot be written. -/
theorem commit_spec (tell : Event → Engine ω → Engine ω) (e : Engine ω) (i : Intent)
    (viewId : String) (params : List (String × String)) :
    ∃ ev e₁, e.commit tell i viewId params = (ev, closing ev (tell ev e₁)) ∧
      e₁.backdrop = e.backdrop ∧
      ((ev = .settled i viewId params ∧ e₁.standing = e.standing.settled i ∧
          (i.trigger.isExternal ∨ e.refuses e.writes (writeOf i) = false)) ∨
        (∃ err, ev = .failed i (.navigation err) ∧ e₁.standing = e.standing ∧
          ¬ i.trigger.isExternal ∧ e.refuses e.writes (writeOf i) = true ∧
          err.kind = .historyWrite)) ∧ e₁.writes = e.writes + writesFor e.history i ev := by
  unfold commit
  dsimp only
  rcases writeIntent_spec { e with phase := .committing } i with
    ⟨e', hwrite, hbackdrop, hstanding, hcan, hwrites⟩ |
      ⟨err, e', hwrite, hbackdrop, hstanding, hinner, hcannot, hwrites, hkind⟩
  · rw [hwrite]
    obtain ⟨e₁, hfinish, hbackdrop', hstanding', hwrites'⟩ :=
      finish_spec tell { e'.settleTrail i with phase := .settled }
        (.settled i viewId params)
    refine ⟨.settled i viewId params, e₁, ?_, hbackdrop'.trans hbackdrop,
      Or.inl ⟨rfl, hstanding'.trans hstanding, hcan⟩, hwrites'.trans hwrites⟩
    simp only [hfinish, closing]
  · rw [hwrite]
    obtain ⟨e₁, hfinish, hbackdrop', hstanding', hwrites'⟩ := finish_spec tell
      (e'.log .warning ("History write failed for " ++ i.path ++ ": " ++ err.message))
      (.failed i (.navigation err))
    refine ⟨.failed i (.navigation err), e₁, ?_, hbackdrop'.trans hbackdrop,
      Or.inr ⟨err, rfl, hstanding'.trans hstanding, hinner, hcannot, hkind⟩, ?_⟩
    · simp only [hfinish, closing]
    · rw [hwrites', writesFor, if_pos ⟨hinner, hkind⟩]
      exact hwrites

theorem credential_spec (e : Engine ω) :
    e.credential.2.backdrop = e.backdrop ∧ e.credential.2.standing = e.standing ∧
      e.credential.2.writes = e.writes := by
  unfold credential
  split <;> exact ⟨rfl, rfl, rfl⟩

/-! ## The whole -/

/-- An intent whose view is known is judged by the guard, unless the credential cannot be read. -/
theorem judge_spec (tell : Event → Engine ω → Engine ω) {e : Engine ω} {i : Intent}
    {entry : Route.Entry} {params : List (String × String)}
    (hview : e.views.lookup "GET" i.path = .matched entry params) :
    (∃ f e₁, e.judge tell i entry params = (.error f, e₁) ∧ e.credential.1 = .error f ∧
      e₁.backdrop = e.backdrop ∧
        e₁.standing = e.standing ∧ e₁.writes = e.writes) ∨
      (∃ ev e₁, e.judge tell i entry params = (.ok ev, closing ev (tell ev e₁)) ∧
        e₁.backdrop = e.backdrop ∧ Ends e i ev e₁.standing ∧
        e₁.writes = e.writes + writesFor e.history i ev) := by
  obtain ⟨hbackdrop, hstanding, hwrites⟩ := credential_spec e
  unfold judge
  cases hread : e.credential with
  | mk result e' =>
    rw [hread] at hbackdrop hstanding hwrites
    have hguard : e'.guard = e.guard := congrArg Backdrop.guard hbackdrop
    have hnow : e'.now = e.now := congrArg Backdrop.now hbackdrop
    have hrefuses : e'.refuses = e.refuses := congrArg Backdrop.refuses hbackdrop
    cases result with
    | error f => exact Or.inl ⟨f, e', rfl, rfl, hbackdrop, hstanding, hwrites⟩
    | ok session =>
      right
      dsimp only at hstanding hwrites
      have hsession : e.credential.1 = .ok session := by rw [hread]
      have hhistory : e'.history = e.history := congrArg Standing.history hstanding
      -- A verdict other than `allowed` blocks, whichever it is.
      have hblock : ∀ reason, e.guard entry.level session e.now = reason → reason ≠ .allowed →
          ∃ ev e₁, e'.block tell i reason entry.level = (ev, closing ev (tell ev e₁)) ∧
            e₁.backdrop = e.backdrop ∧ Ends e i ev e₁.standing ∧
            e₁.writes = e.writes + writesFor e.history i ev := by
        rintro reason rfl hne
        obtain ⟨ev, e₁, hblock, hbackdrop', hturned, htried⟩ :=
          block_spec tell e' i (e.guard entry.level session e.now) entry.level
        rw [hstanding, hrefuses, hwrites] at hturned
        rw [hwrites, hhistory] at htried
        exact ⟨ev, e₁, hblock, hbackdrop'.trans hbackdrop,
          .refused (.denied hview hsession hne) hturned, htried⟩
      dsimp only
      rw [hguard, hnow]
      cases hverdict : e.guard entry.level session e.now with
      | allowed =>
        obtain ⟨ev, e₁, hcommit, hbackdrop', hend, htried⟩ :=
          commit_spec tell e' i entry.handlerId params
        rw [hstanding, hrefuses, hwrites] at hend
        rw [hwrites, hhistory] at htried
        refine ⟨ev, e₁, by rw [hcommit], hbackdrop'.trans hbackdrop, ?_, htried⟩
        rcases hend with ⟨rfl, hsettled, hcan⟩ | ⟨err, rfl, hsame, hinner, hcannot, hkind⟩
        · rw [hsettled]
          exact .settled hview hsession hverdict hcan
        · rw [hsame]
          exact .unwritten err ⟨entry, params, session, hview, hsession, hverdict⟩ hinner
            hcannot hkind
      | unauthenticated =>
        obtain ⟨ev, e₁, hblocked, hrest⟩ := hblock _ hverdict (by simp)
        exact ⟨ev, e₁, by simp only [hblocked], hrest⟩
      | insufficientLevel =>
        obtain ⟨ev, e₁, hblocked, hrest⟩ := hblock _ hverdict (by simp)
        exact ⟨ev, e₁, by simp only [hblocked], hrest⟩

theorem credential_phase (e : Engine ω) (p : Phase) :
    (credential { e with phase := p }).1 = e.credential.1 := by
  unfold credential
  dsimp only
  split <;> rfl

/-- The phase has no part in how an intent ends. -/
theorem Ends.of_phase {e : Engine ω} {p : Phase} {i : Intent} {ev : Event} {s : Standing}
    (h : Ends { e with phase := p } i ev s) : Ends e i ev s := by
  cases h with
  | settled hview hread hguard hwrite =>
    rw [credential_phase] at hread
    exact .settled hview hread hguard hwrite
  | unwritten err hpermits hinner hwrite hkind =>
    obtain ⟨entry, params, session, hview, hread, hguard⟩ := hpermits
    rw [credential_phase] at hread
    exact .unwritten err ⟨entry, params, session, hview, hread, hguard⟩ hinner hwrite hkind
  | refused hrefusal hturned =>
    cases hrefusal with
    | unknown hview => exact .refused (.unknown hview) hturned
    | denied hview hread hguard =>
      rw [credential_phase] at hread
      exact .refused (.denied hview hread hguard) hturned

/-- Dealing with an intent reads the credential in vain, or ends the intent, tells of it and closes;
with the writes that are tried for it. -/
theorem process_writes (tell : Event → Engine ω → Engine ω) (e : Engine ω) (i : Intent) :
    (∃ f e₁, process tell e i = (.error f, e₁) ∧ e.credential.1 = .error f ∧
      e₁.backdrop = e.backdrop ∧
        e₁.standing = e.standing ∧ e₁.writes = e.writes) ∨
      (∃ ev e₁, process tell e i = (.ok ev, { closing ev (tell ev e₁) with phase := .idle }) ∧
        e₁.backdrop = e.backdrop ∧ Ends e i ev e₁.standing ∧
        e₁.writes = e.writes + writesFor e.history i ev) := by
  have hunknown : (∀ entry params, e.views.lookup "GET" i.path ≠ .matched entry params) →
      ∃ ev e₁, failUnknown tell { e with phase := .evaluating } i = (ev, closing ev (tell ev e₁)) ∧
        e₁.backdrop = e.backdrop ∧ Ends e i ev e₁.standing ∧
        e₁.writes = e.writes + writesFor e.history i ev := by
    intro hview
    obtain ⟨ev, e₁, hfail, hbackdrop, hturned, hwrites⟩ :=
      failUnknown_spec tell { e with phase := .evaluating } i
    exact ⟨ev, e₁, hfail, hbackdrop, .refused (.unknown hview) hturned, hwrites⟩
  unfold process
  dsimp only
  cases hview : e.views.lookup "GET" i.path with
  | matched entry params =>
    dsimp only
    rcases judge_spec tell (e := { e with phase := .evaluating }) hview with
      ⟨f, e₁, hjudge, hread, hbackdrop, hstanding, hwrites⟩ |
        ⟨ev, e₁, hjudge, hbackdrop, hends, hwrites⟩
    · left
      rw [credential_phase] at hread
      exact ⟨f, { e₁ with phase := .idle }, by rw [hjudge], hread, hbackdrop, hstanding, hwrites⟩
    · right
      exact ⟨ev, e₁, by rw [hjudge], hbackdrop, hends.of_phase, hwrites⟩
  | methodNotAllowed path allowed =>
    right
    dsimp only
    obtain ⟨ev, e₁, hfail, hrest⟩ := hunknown (by simp [hview])
    exact ⟨ev, e₁, by rw [hfail], hrest⟩
  | noRoute path =>
    right
    dsimp only
    obtain ⟨ev, e₁, hfail, hrest⟩ := hunknown (by simp [hview])
    exact ⟨ev, e₁, by rw [hfail], hrest⟩

/-- Dealing with an intent reads the credential in vain, or ends the intent, tells of it and
closes. -/
theorem process_spec (tell : Event → Engine ω → Engine ω) (e : Engine ω) (i : Intent) :
    (∃ f e₁, process tell e i = (.error f, e₁) ∧ e.credential.1 = .error f ∧
      e₁.backdrop = e.backdrop ∧
        e₁.standing = e.standing) ∨
      (∃ ev e₁, process tell e i = (.ok ev, { closing ev (tell ev e₁) with phase := .idle }) ∧
        e₁.backdrop = e.backdrop ∧ Ends e i ev e₁.standing) := by
  rcases process_writes tell e i with
    ⟨f, e₁, hprocess, hread, hbackdrop, hstanding, -⟩ | ⟨ev, e₁, hprocess, hbackdrop, hends, -⟩
  · exact Or.inl ⟨f, e₁, hprocess, hread, hbackdrop, hstanding⟩
  · exact Or.inr ⟨ev, e₁, hprocess, hbackdrop, hends⟩

end Engine

end Waypost.Browser
