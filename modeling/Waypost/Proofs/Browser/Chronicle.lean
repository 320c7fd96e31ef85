import Waypost.Proofs.Browser.Run

/-!
# The chronicle of a run

Whoever listens, one more may keep a list of all events, and the engine does not notice.

* `chronicled tell` : those who listen, and one who keeps the list;
* `forget` : the engine without the list; each operation of the engine commutes with it
  (`submit_forget`, `process_forget`, `perform_forget`);
* `eventsOf tell e steps` : the events that a run reports, in order, if nobody calls back;
* `run_forget` : the run that the list is taken from is the run itself.
-/

namespace Waypost.Browser.Engine

open Access Time

variable {ω : Type}

/-- The engine with something else for those who listen. -/
def withOwn {α β : Type} (e : Engine α) (own : β) : Engine β :=
  { e with own }

/-- The engine without the list of events. -/
def forget (e : Engine (ω × List Event)) : Engine ω :=
  e.withOwn e.own.1

/-- Those who listen, and one more who keeps a list of all events. -/
def chronicled (tell : Event → Engine ω → Engine ω) (ev : Event) (e : Engine (ω × List Event)) :
    Engine (ω × List Event) :=
  (tell ev e.forget).withOwn ((tell ev e.forget).own, e.own.2 ++ [ev])

/-- A result without the list of events. -/
def forgetAfter {α : Type} (r : α × Engine (ω × List Event)) : α × Engine ω :=
  (r.1, r.2.forget)

variable (tell : Event → Engine ω → Engine ω) (e : Engine (ω × List Event))

/-! ## Submissions -/

theorem reportSuperseded_forget (new : Intent) (olds : List Intent) :
    (reportSuperseded (chronicled tell) new e olds).forget =
      reportSuperseded tell new e.forget olds := by
  induction olds generalizing e with
  | nil => rfl
  | cons old olds ih =>
    unfold reportSuperseded
    exact ih _

theorem submit_forget (path : String) (trigger : Trigger) (replace : Bool) (index : Option Int) :
    forgetAfter (e.submit (chronicled tell) path trigger replace index) =
      e.forget.submit tell path trigger replace index := by
  have hreport := reportSuperseded_forget tell
    { e with
      generation := e.generation + 1
      queue := e.queue.filter fun old => !supersedes (e.newIntent path trigger replace index) old }
    (e.newIntent path trigger replace index)
    (e.queue.filter fun old => supersedes (e.newIntent path trigger replace index) old)
  exact congrArg (fun r : Engine ω =>
    (e.generation + 1,
      { r with
        queue := r.queue ++ [e.newIntent path trigger replace index]
        trail := { r.trail with pending := some (e.newIntent path trigger replace index) }
        signals := r.signals ++ [Signal.wake] })) hreport

theorem travel_forget (t : Trigger) :
    forgetAfter (e.travel (chronicled tell) t) = e.forget.travel tell t := by
  unfold travel
  rw [show e.forget.history = e.history from rfl]
  split
  · rfl
  · rename_i h hmove
    dsimp only
    rw [show e.forget.listening = e.listening from rfl]
    split_ifs
    · exact congrArg (fun r : Nat × Engine ω => (true, r.2))
        (submit_forget tell { e with history := h } h.current t false (some h.index))
    · rfl

/-! ## Dealing with intents -/

theorem write_forget (w : Write) (path : String) :
    forgetAfter (e.write w path) = e.forget.write w path := by
  unfold write
  rw [show e.forget.refuses e.forget.writes w = e.refuses e.writes w from rfl]
  cases w <;> cases e.refuses e.writes _ <;> rfl

theorem writeIntent_forget (i : Intent) :
    forgetAfter (e.writeIntent i) = e.forget.writeIntent i := by
  unfold writeIntent
  split_ifs
  · rfl
  · exact write_forget e _ i.path
  · exact write_forget e _ i.path

theorem compensate_forget (i : Intent) : forgetAfter (e.compensate i) = e.forget.compensate i := by
  unfold compensate
  rw [show e.forget.history = e.history from rfl]
  split_ifs
  · rfl
  · have hwrite := write_forget e .replace e.trail.currentPath
    dsimp only
    rw [show e.forget.trail = e.trail from rfl, ← hwrite]
    cases e.write .replace e.trail.currentPath with
    | mk result e' => cases result <;> rfl

theorem giveUpLoad_forget : e.giveUpLoad.forget = e.forget.giveUpLoad := by
  unfold giveUpLoad
  rw [show e.forget.latestLoad = e.latestLoad from rfl]
  split
  · rfl
  · rw [show e.forget.loads = e.loads from rfl]
    split
    · rfl
    · split_ifs <;> rfl

theorem startLoad_forget (i : Intent) (viewId : String) (params : List (String × String)) :
    (e.startLoad i viewId params).forget = e.forget.startLoad i viewId params := by
  unfold startLoad
  rw [show e.forget.loading = e.loading from rfl]
  split_ifs
  · rfl
  · dsimp only
    rw [← giveUpLoad_forget]
    rfl

theorem turn_forget (i : Intent) (say : Option String → Event) :
    forgetAfter (turn (chronicled tell) e i say) = turn tell e.forget i say := by
  unfold turn
  split_ifs
  · rfl
  · rw [← compensate_forget]
    cases e.compensate i with
    | mk result e' => cases result <;> rfl

theorem block_forget (i : Intent) (reason : Verdict) (required : Level) :
    forgetAfter (e.block (chronicled tell) i reason required) =
      e.forget.block tell i reason required :=
  turn_forget tell _ i fun corrected => .blocked i reason corrected

theorem failUnknown_forget (i : Intent) :
    forgetAfter (e.failUnknown (chronicled tell) i) = e.forget.failUnknown tell i :=
  turn_forget tell _ i fun _ => .failed i (.navigation (.noView i.path))

theorem commit_forget (i : Intent) (viewId : String) (params : List (String × String)) :
    forgetAfter (e.commit (chronicled tell) i viewId params) =
      e.forget.commit tell i viewId params := by
  have hwrite := writeIntent_forget { e with phase := .committing } i
  unfold commit
  dsimp only
  rw [show { e.forget with phase := .committing } = forget { e with phase := .committing }
    from rfl, ← hwrite]
  cases writeIntent { e with phase := .committing } i with
  | mk result e' =>
    cases result with
    | error err => rfl
    | ok u =>
      have hsettle : (e'.settleTrail i).forget = e'.forget.settleTrail i := by
        unfold settleTrail
        split_ifs <;> rfl
      simp only [forgetAfter, ← hsettle, startLoad_forget]
      rfl

theorem credential_forget : forgetAfter e.credential = e.forget.credential := by
  unfold credential
  rw [show e.forget.source = e.source from rfl]
  split <;> rfl

theorem judge_forget (i : Intent) (entry : Route.Entry) (params : List (String × String)) :
    forgetAfter (e.judge (chronicled tell) i entry params) =
      e.forget.judge tell i entry params := by
  unfold judge
  rw [← credential_forget]
  cases e.credential with
  | mk result e' =>
    cases result with
    | error f => rfl
    | ok session =>
      simp only [forgetAfter]
      rw [show e'.forget.guard entry.level session e'.forget.now =
        e'.guard entry.level session e'.now from rfl]
      cases e'.guard entry.level session e'.now with
      | allowed =>
        exact congrArg (fun r : Event × Engine ω => (Except.ok r.1, r.2))
          (commit_forget tell e' i entry.handlerId params)
      | unauthenticated =>
        exact congrArg (fun r : Event × Engine ω => (Except.ok r.1, r.2))
          (block_forget tell e' i .unauthenticated entry.level)
      | insufficientLevel =>
        exact congrArg (fun r : Event × Engine ω => (Except.ok r.1, r.2))
          (block_forget tell e' i .insufficientLevel entry.level)

theorem process_forget (i : Intent) :
    forgetAfter (process (chronicled tell) e i) = process tell e.forget i := by
  have hunknown := failUnknown_forget tell { e with phase := .evaluating } i
  unfold process
  dsimp only
  rw [show e.forget.views = e.views from rfl]
  cases e.views.lookup "GET" i.path with
  | matched entry params =>
    have hjudge := judge_forget tell { e with phase := .evaluating } i entry params
    exact congrArg (fun r : Except Fault Event × Engine ω =>
      (r.1, ({ r.2 with phase := .idle } : Engine ω))) hjudge
  | methodNotAllowed path allowed =>
    exact congrArg (fun r : Event × Engine ω =>
      (Except.ok r.1, ({ r.2 with phase := .idle } : Engine ω))) hunknown
  | noRoute path =>
    exact congrArg (fun r : Event × Engine ω =>
      (Except.ok r.1, ({ r.2 with phase := .idle } : Engine ω))) hunknown

theorem processNext_forget :
    (e.processNext (chronicled tell)).map forgetAfter = e.forget.processNext tell := by
  unfold processNext
  rw [show e.forget.queue = e.queue from rfl]
  cases e.queue with
  | nil => rfl
  | cons i rest =>
    dsimp only
    rw [show { e.forget with queue := rest } = forget { e with queue := rest } from rfl,
      ← process_forget]
    cases process (chronicled tell) { e with queue := rest } i with
    | mk result e' => cases result <;> rfl

theorem processFor_forget (fuel n : Nat) :
    forgetAfter (processFor (chronicled tell) fuel n e) = processFor tell fuel n e.forget := by
  induction fuel generalizing n e with
  | zero => rfl
  | succ fuel ih =>
    unfold processFor
    rw [← processNext_forget]
    cases e.processNext (chronicled tell) with
    | none => rfl
    | some result =>
      obtain ⟨r, e'⟩ := result
      cases r with
      | error f => rfl
      | ok u => exact ih e' (n + 1)

/-! ## Runs -/

theorem perform_forget (s : Step) :
    forgetAfter (e.perform (chronicled tell) s) = e.forget.perform tell s := by
  cases s with
  | submit path trigger replace index =>
    exact congrArg (fun r : Nat × Engine ω => (Except.ok (), r.2))
      (submit_forget tell e path trigger replace index)
  | travel t =>
    exact congrArg (fun r : Bool × Engine ω => (Except.ok (), r.2)) (travel_forget tell e t)
  | next =>
    unfold perform
    rw [← processNext_forget]
    cases e.processNext (chronicled tell) <;> rfl
  | process more =>
    exact congrArg (fun r : Except Fault Nat × Engine ω => (r.1.map fun _ => (), r.2))
      (processFor_forget tell e (e.queue.length + more) 0)
  | credential source wallet => rfl
  | clock now => rfl

/-- The run with a chronicle is the run without one. -/
theorem run_forget (steps : List Step) :
    (run (chronicled tell) e steps).forget = run tell e.forget steps := by
  induction steps generalizing e with
  | nil => rfl
  | cons s steps ih =>
    have hnow : (e.perform (chronicled tell) s).2.forget = (e.forget.perform tell s).2 :=
      congrArg Prod.snd (perform_forget tell e s)
    rw [run, ih, hnow, run]

theorem smooth_forget (steps : List Step) :
    Smooth (chronicled tell) e steps ↔ Smooth tell e.forget steps := by
  induction steps generalizing e with
  | nil => exact Iff.rfl
  | cons s steps ih =>
    have hresult : (e.perform (chronicled tell) s).1 = (e.forget.perform tell s).1 :=
      congrArg Prod.fst (perform_forget tell e s)
    have hnow : (e.perform (chronicled tell) s).2.forget = (e.forget.perform tell s).2 :=
      congrArg Prod.snd (perform_forget tell e s)
    unfold Smooth
    rw [hresult, ih, hnow]

/-- Keeping the list is no calling back. -/
theorem chronicled_quietOn {tell : Event → Engine ω → Engine ω} {P : ω → Prop}
    (hquiet : QuietOn P tell) :
    QuietOn (fun own => P own.1) (chronicled tell) := by
  intro ev e hown
  obtain ⟨own, journal, source, wallet, now, hown', htell⟩ := hquiet ev e.forget hown
  refine ⟨(own, e.own.2 ++ [ev]), journal, source, wallet, now, hown', ?_⟩
  unfold chronicled
  rw [htell]
  rfl

/-- The engine with an empty list of events. -/
def enroll (e : Engine ω) : Engine (ω × List Event) :=
  e.withOwn (e.own, [])

/-- A run is the one that its chronicle is taken from. -/
theorem run_eq_forget (tell : Event → Engine ω → Engine ω) (e : Engine ω) (steps : List Step) :
    run tell e steps = (run (chronicled tell) e.enroll steps).forget :=
  (run_forget tell e.enroll steps).symm

/-- The events that a run reports, in order, to those who do not call back. -/
def eventsOf (tell : Event → Engine ω → Engine ω) (e : Engine ω) (steps : List Step) : List Event :=
  (run (chronicled tell) e.enroll steps).own.2

end Waypost.Browser.Engine
