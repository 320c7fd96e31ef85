import Waypost.Proofs.Browser.Lasting
import Waypost.Proofs.Browser.Mirror

/-!
# The engine stays in line with the browser

An engine may start anywhere in the history, so that moves of the browser lead to entries that it
does not know, and writes to the history may fail.

* `Within` : the entries that the engine knows are entries of the browser; `Marked` : the engine is
  on an entry that it knows, and the current path stands there;
* `Attends P Base Astray` : the engine is level with the browser, unless a move of the browser waits
  or something has gone astray; all that waits behind the move was submitted later and by no move;
* `Strands` : a move of the browser is refused and cannot be taken back;
* `lasting_attends` : an engine attends along every run, and only a stranded move leads it astray;
* `run_within` : where all writes succeed, no move is ever stranded, wherever the engine starts;
* `process_settled_aligned` : where writes fail, an intent that settles leaves the engine in line
  with the browser, unless a move was stranded; `process_settled_astray` : a stranded move does put
  the two apart.
-/

namespace Waypost.Browser

open Access Time

namespace Standing

/-- The entries that the engine knows are entries of the browser. -/
def Within (s : Standing) : Prop :=
  0 ≤ s.offset ∧ s.offset + s.trail.stack.length ≤ s.history.entries.length

/-- The engine is on an entry that it knows, and the current path stands there. -/
def Marked (s : Standing) : Prop :=
  s.trail.stack[s.trail.position]? = some s.trail.currentPath

/-! ## The outcomes of an intent -/

theorem Within.moved {s : Standing} (h : s.Within) (hin : s.Inside) (path : String) :
    0 ≤ (s.trail.moved s.offset s.history.index path).2 ∧
      (s.trail.moved s.offset s.history.index path).2 +
        (s.trail.moved s.offset s.history.index path).1.stack.length ≤
          s.history.entries.length := by
  obtain ⟨hstart, hend⟩ := Trail.moved_span s.trail s.offset s.history.index path
  obtain ⟨hlow, hhigh⟩ := h
  unfold Inside at hin
  omega

theorem within_settled {s : Standing} {i : Intent} (h : s.Within) (hin : s.Inside)
    (hdue : s.Due i) :
    (s.settled i).Within := by
  unfold settled
  rcases hdue with ⟨houter, hstamp, -⟩ | ⟨hinner, hplace, -⟩
  · rw [if_pos houter, hstamp]
    exact h.moved hin i.path
  · -- What is pushed goes right behind the browser's entry, which is the engine's too.
    rw [if_neg hinner]
    obtain ⟨hlow, hhigh⟩ := h
    refine ⟨hlow, ?_⟩
    unfold Inside at hin
    unfold Trail.committed
    dsimp only
    split_ifs
    · simpa [History.replace] using hhigh
    · simp only [History.push, List.length_append, List.length_take, List.length_singleton]
      omega

theorem within_corrected {s : Standing} {i : Intent} (h : s.Within) (hin : s.Inside)
    (hreports : s.Reports i) :
    (s.corrected i).Within := by
  unfold corrected
  rw [hreports.2.1]
  unfold Within History.replace
  rw [List.length_set]
  exact h.moved hin s.trail.currentPath

theorem marked_settled {s : Standing} {i : Intent} (h : s.Marked) : (s.settled i).Marked := by
  unfold settled Marked
  split_ifs
  · exact Trail.moved_marked s.trail s.offset (i.historyIndex.getD 0) i.path
  · rw [Trail.committed_currentPath]
    exact Trail.committed_marked (List.getElem?_eq_some_iff.mp h).1 i
  · rw [Trail.committed_currentPath]
    exact Trail.committed_marked (List.getElem?_eq_some_iff.mp h).1 i

theorem marked_corrected {s : Standing} (i : Intent) : (s.corrected i).Marked := by
  unfold corrected Marked
  dsimp only
  rw [Trail.moved_currentPath]
  exact Trail.moved_marked s.trail s.offset (i.historyIndex.getD 0) s.trail.currentPath

/-- An intent that settles takes the engine to the path that the browser shows, even if the two are
on different entries. -/
theorem current_settled {s : Standing} {i : Intent} (hin : s.Inside)
    (hreports : i.trigger.isExternal → s.Reports i) :
    (s.settled i).trail.currentPath = (s.settled i).history.current := by
  unfold settled
  split_ifs with houter hreplace
  · exact (hreports houter).2.2
  · rw [Trail.committed_currentPath]
    exact (History.current_replace hin i.path).symm
  · rw [Trail.committed_currentPath]
    exact (History.current_push hin i.path).symm

end Standing

namespace Engine

variable {ω : Type} {tell : Event → Engine ω → Engine ω} {P : ω → Prop} {Base : Standing → Prop}
  {Astray : Prop}

/-! ## Attending to the browser -/

/-- Of the waiting intents only the first may tell of a move of the browser, and then of the one
that brought it where it is. -/
def ReportFirst (s : Standing) (queue : List Intent) : Prop :=
  ∀ i rest, queue = i :: rest → InnerOnly rest ∧ (i.trigger.isExternal → s.Reports i)

/-- The engine listens to the browser. It is level with it if no move of the browser waits, unless
something has gone astray. -/
structure Attends (P : ω → Prop) (Base : Standing → Prop) (Astray : Prop) (e : Engine ω) :
    Prop where
  own : P e.own
  listens : e.listening = true
  inside : e.standing.Inside
  base : Base e.standing
  report : ReportFirst e.standing e.queue
  level : InnerOnly e.queue → Astray ∨ e.standing.Level

/-- What the outcomes of an intent have to preserve of a property of the standing, where something
may have gone astray. -/
structure Sustained (Base : Standing → Prop) (Astray : Prop) : Prop where
  moved : ∀ {s : Standing} {h : History} {t : Trigger}, Base s → s.history.move? t = some h →
    Base { s with history := h }
  settled : ∀ {s : Standing} {i : Intent}, Base s → s.Inside → Astray ∨ s.Due i → Base (s.settled i)
  corrected : ∀ {s : Standing} {i : Intent}, Base s → s.Inside → s.Reports i → Base (s.corrected i)

theorem sustained_within : Sustained Standing.Within False where
  moved := by
    intro s h t hbase hmove
    unfold Standing.Within at hbase ⊢
    rw [(History.move?_spec hmove).2.1]
    exact hbase
  settled := by
    rintro s i hbase hin (hastray | hdue)
    · exact hastray.elim
    · exact Standing.within_settled hbase hin hdue
  corrected := Standing.within_corrected

theorem sustained_marked : Sustained Standing.Marked Astray where
  moved := fun hbase _ => hbase
  settled := fun hbase _ _ => Standing.marked_settled hbase
  corrected := fun _ _ _ => Standing.marked_corrected _

theorem innerOnly_nil : InnerOnly [] :=
  fun _ hmem => absurd hmem List.not_mem_nil

theorem InnerOnly.reportFirst {queue : List Intent} (h : InnerOnly queue) (s : Standing) :
    ReportFirst s queue := by
  rintro i rest rfl
  exact ⟨fun j hj => h j (List.mem_cons_of_mem i hj), fun houter =>
    absurd houter (h i List.mem_cons_self)⟩

/-- An engine that has just been started is level with the browser. -/
theorem attends_start (Astray : Prop) {e : Engine ω} (hclosed : e.listening = false)
    (hinside : e.history.index < e.history.entries.length) (hqueue : InnerOnly e.queue)
    (hown : P e.own) (hbase : Base ⟨e.history, .start e.history.current, e.history.index⟩) :
    Attends P Base Astray e.start := by
  unfold start
  rw [if_neg (by simp [hclosed])]
  refine ⟨hown, rfl, hinside, hbase, hqueue.reportFirst _, fun _ => Or.inr ⟨?_, rfl⟩⟩
  simp [standing, Trail.start]

theorem innerOnly_filter {new : Intent} (hnew : ¬ new.trigger.isExternal) {queue : List Intent}
    (h : InnerOnly ((queue.filter fun old => !supersedes new old) ++ [new])) : InnerOnly queue := by
  intro i hi houter
  refine h i (List.mem_append_left _ (List.mem_filter.mpr ⟨hi, ?_⟩)) houter
  rw [supersedes_of_inner hnew, houter]
  rfl

theorem ReportFirst.submit {s : Standing} {queue : List Intent} {new : Intent}
    (hnew : ¬ new.trigger.isExternal) (h : ReportFirst s queue) :
    ReportFirst s ((queue.filter fun old => !supersedes new old) ++ [new]) := by
  simp only [supersedes_of_inner hnew, Bool.not_not]
  have hlast : InnerOnly [new] := by
    intro i hi
    rw [List.mem_singleton.mp hi]
    exact hnew
  cases queue with
  | nil => exact hlast.reportFirst s
  | cons i rest =>
    obtain ⟨hrest, hreports⟩ := h i rest rfl
    have hnone : (rest.filter fun old => old.trigger.isExternal) = [] :=
      List.filter_eq_nil_iff.mpr hrest
    rw [List.filter_cons, hnone]
    split_ifs with houter
    · rintro j rest' hqueue
      obtain ⟨rfl, rfl⟩ := List.cons.inj hqueue
      exact ⟨hlast, hreports⟩
    · exact hlast.reportFirst s

theorem submit_attends (hquiet : QuietOn P tell) {e : Engine ω} (h : Attends P Base Astray e)
    (path : String) {trigger : Trigger} (hinner : ¬ trigger.isExternal) (replace : Bool)
    (index : Option Int) :
    Attends P Base Astray (e.submit tell path trigger replace index).2 := by
  obtain ⟨own, journal, source, wallet, now, outcomes, hown, hsubmit⟩ :=
    submit_quiet hquiet e h.own path trigger replace index
  rw [hsubmit]
  exact ⟨hown, h.listens, h.inside, h.base, h.report.submit hinner,
    fun honly => h.level (innerOnly_filter hinner honly)⟩

theorem travel_attends (hquiet : QuietOn P tell) (hbase : Sustained Base Astray) {e : Engine ω}
    (h : Attends P Base Astray e) (t : Trigger) : Attends P Base Astray (e.travel tell t).2 := by
  unfold travel
  split
  · exact h
  · rename_i h' hmove
    obtain ⟨houter, -, hinside⟩ := History.move?_spec hmove
    dsimp only
    rw [if_pos h.listens]
    obtain ⟨own, journal, source, wallet, now, outcomes, hown, hsubmit⟩ :=
      submit_quiet hquiet { e with history := h' } h.own h'.current t false (some h'.index)
    have hreports := reports_newIntent { e with history := h' } houter
    rw [hsubmit]
    -- The new intent is all that waits, and it reports the move.
    simp only [supersedes_of_outer hreports.1, Bool.not_true, List.filter_false, List.nil_append]
    refine ⟨hown, h.listens, hinside h.inside, hbase.moved h.base hmove, ?_, ?_⟩
    · rintro i rest hqueue
      obtain ⟨rfl, rfl⟩ := List.cons.inj hqueue
      exact ⟨nofun, fun _ => hreports⟩
    · intro honly
      exact absurd hreports.1 (honly _ (List.mem_singleton.mpr rfl))

/-! ## Dealing with intents -/

/-- A move of the browser is neither followed nor taken back: it is not permitted and the history
does not take the current path in its place, or dealing with it faults. -/
def Strands (tell : Event → Engine ω → Engine ω) (e : Engine ω) (i : Intent) : Prop :=
  i.trigger.isExternal ∧
    ((¬ e.Permits i ∧ e.refuses e.writes .replace = true) ∨ ∃ f, (process tell e i).1 = .error f)

theorem Refusal.not_permits {e : Engine ω} {i : Intent} {say : Option String → Event}
    (h : Refusal e i say) :
    ¬ e.Permits i := by
  rintro ⟨entry, params, session, hview, hread, hguard⟩
  cases h with
  | unknown hnone => exact hnone entry params hview
  | denied hview' hread' hguard' =>
    rw [hview] at hview'
    rw [hread] at hread'
    cases hview'
    cases hread'
    exact hguard' hguard

/-- An intent leaves the engine level with the browser if it tells of the browser's move or the two
were level before, however it ends, unless it is a move that is stranded. -/
theorem Ends.attends (hbase : Sustained Base Astray) {e : Engine ω} {i : Intent} {ev : Event}
    {s : Standing} (hends : Ends e i ev s) (hstrands : Strands tell e i → Astray)
    (hinside : e.standing.Inside) (h : Base e.standing)
    (hreports : i.trigger.isExternal → e.standing.Reports i)
    (hlevel : ¬ i.trigger.isExternal → Astray ∨ e.standing.Level) :
    s.Inside ∧ Base s ∧ (Astray ∨ s.Level) := by
  have hdue : Astray ∨ e.standing.Due i := by
    by_cases houter : i.trigger.isExternal
    · exact Or.inr (Or.inl (hreports houter))
    · exact (hlevel houter).imp_right fun hlevel => Or.inr ⟨houter, hlevel⟩
  cases hends with
  | settled hview hread hguard hwrite =>
    exact ⟨Standing.inside_settled hinside, hbase.settled h hinside hdue,
      hdue.imp_right (Standing.level_settled hinside)⟩
  | unwritten err hpermits hinner hwrite => exact ⟨hinside, h, hlevel hinner⟩
  | refused hrefusal hturned =>
    cases hturned with
    | dismissed hinner => exact ⟨hinside, h, hlevel hinner⟩
    | undone houter hundoing =>
      cases hundoing
      exact ⟨Standing.inside_corrected hinside, hbase.corrected h hinside (hreports houter),
        Or.inr (Standing.level_corrected hinside (hreports houter))⟩
    | stranded houter hundoing =>
      cases hundoing with
      | left hat => exact absurd (hreports houter).2.1 hat
      | unwritten hat hwrite =>
        exact ⟨hinside, h, Or.inl (hstrands ⟨houter, Or.inl ⟨hrefusal.not_permits, hwrite⟩⟩)⟩

theorem processNext_attends (hquiet : QuietOn P tell) (hbase : Sustained Base Astray)
    {e e' : Engine ω} {i : Intent} {rest : List Intent} {r : Except Fault Unit}
    (h : Attends P Base Astray e) (hqueue : e.queue = i :: rest)
    (hstrands : Strands tell { e with queue := rest } i → Astray)
    (hnext : e.processNext tell = some (r, e')) :
    Attends P Base Astray e' := by
  obtain ⟨hrest, hreports⟩ := h.report i rest hqueue
  have hlevel : ¬ i.trigger.isExternal → Astray ∨ e.standing.Level := by
    intro hinner
    refine h.level ?_
    rw [hqueue]
    exact List.forall_mem_cons.mpr ⟨hinner, hrest⟩
  cases r with
  | error f =>
    -- The intent is lost. That matters only if it told of a move of the browser.
    obtain ⟨-, hbackdrop, hstanding⟩ := processNext_error hqueue hnext
    have hown : e'.own = e.own := congrArg Backdrop.own hbackdrop
    have hqueue' : e'.queue = rest := congrArg Backdrop.queue hbackdrop
    have hlistening : e'.listening = e.listening := congrArg Backdrop.listening hbackdrop
    refine ⟨hown.symm ▸ h.own, hlistening.trans h.listens, hstanding.symm ▸ h.inside,
      hstanding.symm ▸ h.base, ?_, ?_⟩
    · rw [hqueue']
      exact hrest.reportFirst _
    · intro _
      rw [hstanding]
      by_cases houter : i.trigger.isExternal
      · rcases processNext_eq tell hqueue with ⟨ev, e'', -, hok⟩ | ⟨f', e'', hfault, -⟩
        · rw [hok] at hnext
          cases hnext
        · exact Or.inl (hstrands ⟨houter, Or.inr ⟨f', hfault⟩⟩)
      · exact hlevel houter
  | ok u =>
    obtain ⟨hown, hqueue', hlistening, -, ev, hends⟩ := processNext_quiet hquiet h.own hqueue hnext
    obtain ⟨hinside, hbase', hlevel'⟩ :=
      hends.attends hbase hstrands h.inside h.base hreports hlevel
    refine ⟨hown, hlistening.trans h.listens, hinside, hbase', ?_, fun _ => hlevel'⟩
    rw [hqueue']
    exact hrest.reportFirst _

/-- An engine that attends to the browser does so along every run, and only a stranded move leads it
astray. -/
theorem lasting_attends (hquiet : QuietOn P tell) (hbase : Sustained Base Astray) :
    Lasting tell Honest (fun i e => Strands tell e i → Astray) (Attends P Base Astray) where
  submit := fun h hinner => submit_attends hquiet h _ hinner _ _
  travel := fun t h => travel_attends hquiet hbase h t
  credential := fun _ _ h => ⟨h.own, h.listens, h.inside, h.base, h.report, h.level⟩
  clock := fun _ h => ⟨h.own, h.listens, h.inside, h.base, h.report, h.level⟩
  next := fun h hqueue hstrands hnext => processNext_attends hquiet hbase h hqueue hstrands hnext

/-! ## All writes succeed -/

theorem Ends.ne_leftEntry {e : Engine ω} {i j : Intent} {stamped now : Int} {s : Standing}
    (hends : Ends e i (.failed j (.navigation (.leftEntry stamped now))) s)
    (hwritable : ∀ n w, e.refuses n w = false)
    (hreports : i.trigger.isExternal → e.standing.Reports i) : False := by
  cases hends with
  | unwritten err hpermits hinner hwrite => exact absurd hwrite (by simp [hwritable])
  | refused hrefusal hturned =>
    generalize hev : Event.failed j (.navigation (.leftEntry stamped now)) = ev at hturned
    cases hturned with
    | dismissed hinner => cases hrefusal <;> simp at hev
    | undone houter hundoing => cases hrefusal <;> simp at hev
    | stranded houter hundoing =>
      cases hundoing with
      | left hat => exact hat (hreports houter).2.1
      | unwritten hat hwrite => simp at hev

/-- An engine may start on any entry of any history. After every run the entries that it knows are
entries of the browser, and it is on the entry that the browser is on whenever no move of the
browser waits. A move that it comes to deal with led to where the browser still is, so that no move
is ever found to be out of date. -/
theorem run_within (hquiet : QuietOn P tell) (e : Engine ω) (hclosed : e.listening = false)
    (hinside : e.history.index < e.history.length) (hqueue : InnerOnly e.queue)
    (hwritable : ∀ n w, e.refuses n w = false) (hown : P e.own) (steps : List Step)
    (hhonest : ∀ s ∈ steps, Honest s) (hsmooth : Smooth tell e.start steps) :
    (0 ≤ (run tell e.start steps).offset ∧
        (run tell e.start steps).offset + (run tell e.start steps).trail.stack.length ≤
          (run tell e.start steps).history.length) ∧
      (InnerOnly (run tell e.start steps).queue →
        (run tell e.start steps).offset + (run tell e.start steps).trail.position =
            (run tell e.start steps).history.index ∧
          (run tell e.start steps).trail.currentPath = (run tell e.start steps).history.current) ∧
      ∀ i e', Handles tell e.start steps i e' →
        (i.trigger.isExternal → i.historyIndex = some (e'.history.index : Int) ∧
          i.path = e'.history.current) ∧ ∀ j stamped now,
          (process tell e' i).1 ≠ .ok (.failed j (.navigation (.leftEntry stamped now))) := by
  have hstart : Attends P Standing.Within False e.start := by
    refine attends_start False hclosed hinside hqueue hown ⟨Int.natCast_nonneg _, ?_⟩
    simp only [Trail.start, List.length_singleton]
    unfold History.length at hinside
    omega
  have hrefuses : ∀ i e', Handles tell e.start steps i e' → ∀ n w, e'.refuses n w = false := by
    intro i e' hhandles n w
    rw [(handles_refuses hquiet hstart.own hhandles).2]
    unfold start
    split_ifs <;> exact hwritable n w
  have hnone : ∀ i e', Handles tell e.start steps i e' → ¬ Strands tell e' i := by
    rintro i e' hhandles ⟨-, ⟨-, hwrite⟩ | ⟨f, hfault⟩⟩
    · exact absurd hwrite (by simp [hrefuses i e' hhandles])
    · obtain ⟨ev, hevent⟩ := hsmooth.handles hhandles
      rw [hfault] at hevent
      cases hevent
  have hlasting := lasting_attends hquiet sustained_within
  have hrun : Attends P Standing.Within False (run tell e.start steps) :=
    hlasting.run hstart hhonest hnone
  refine ⟨hrun.base, fun hinner => (hrun.level hinner).resolve_left id, fun i e' hhandles => ?_⟩
  obtain ⟨e₀, rest, hattends, hwaits, rfl⟩ := hlasting.handles hhandles hstart hhonest hnone
  have hreports := (hattends.report i rest hwaits).2
  refine ⟨fun houter => (hreports houter).2, fun j stamped now hfailed => ?_⟩
  exact (process_quiet hquiet (e := { e₀ with queue := rest }) hattends.own hfailed).ne_leftEntry
    (hrefuses i _ hhandles) hreports

/-- A page that is opened in the middle of a history, with one who takes note of every event. -/
def midwayPage : Engine Audience where
  views :=
    [Route.Call.add "GET" "/" "home" .anonymous none,
      .add "GET" "/items" "items.list" .authenticated none].foldl
      Route.Table.perform .empty
  history := ⟨["/lost", "/items", "/", "/items"], 2⟩
  now := 0
  own := ({} : Audience).subscribe "view" .note 0

/-- Moves to entries before and behind the one that is known, some of them refused, and a click on
the way. -/
def midwayVisit : List Step :=
  [.travel .back, .travel .back, .process 0,
    .credential (.given (some ⟨"t", .authenticated, 10, "u"⟩)) {}, .travel .forward,
    .submit "/items" .userClick false none, .next, .travel .forward, .travel .forward, .process 0,
    .clock 10, .travel .back, .submit "/" .programmatic true none, .process 0]

theorem run_within_midwayPage :
    (run tellAll midwayPage.start midwayVisit).offset +
      (run tellAll midwayPage.start midwayVisit).trail.stack.length ≤
        (run tellAll midwayPage.start midwayVisit).history.length ∧
      (run tellAll midwayPage.start midwayVisit).offset +
        (run tellAll midwayPage.start midwayVisit).trail.position =
        (run tellAll midwayPage.start midwayVisit).history.index ∧
      ∀ i e', Handles tellAll midwayPage.start midwayVisit i e' → i.trigger.isExternal →
        i.path = e'.history.current := by
  have hpassive : midwayPage.own.Passive := by
    simp [Audience.Passive, midwayPage, Audience.subscribe, Listener.callsBack]
  have hhonest : ∀ s ∈ midwayVisit, Honest s := by
    simp [midwayVisit, Honest, Trigger.isExternal]
  have hsmooth : Smooth tellAll midwayPage.start midwayVisit :=
    ⟨rfl, rfl, rfl, rfl, rfl, rfl, rfl, rfl, rfl, rfl, rfl, rfl, rfl, rfl, trivial⟩
  have hqueue : (run tellAll midwayPage.start midwayVisit).queue = [] := rfl
  have h := run_within tellAll_quietOn midwayPage rfl (by decide) innerOnly_nil (fun _ _ => rfl)
    hpassive midwayVisit hhonest
    hsmooth
  rw [hqueue] at h
  exact ⟨h.1.2, (h.2.1 innerOnly_nil).1, fun i e' hhandles houter =>
    ((h.2.2 i e' hhandles).1 houter).2⟩

/-! ## Writes may fail -/

theorem Ends.of_settled {e : Engine ω} {i j : Intent} {viewId : String}
    {params : List (String × String)} {s : Standing}
    (hends : Ends e i (.settled j viewId params) s) : s = e.standing.settled i := by
  cases hends with
  | settled hview hread hguard hwrite => rfl
  | refused hrefusal hturned =>
    generalize hev : Event.settled j viewId params = ev at hturned
    cases hrefusal with
    | unknown hview => cases hturned <;> simp at hev
    | denied hview hread hguard => cases hturned <;> simp at hev

/-- Whichever writes fail, an intent that settles leaves the engine on an entry that it knows, with
the path there that the browser shows. That entry is the one that the browser is on, unless the
intent is no move of the browser and the run has come to a move that was stranded. -/
theorem process_settled_aligned (hquiet : QuietOn P tell) (e : Engine ω)
    (hclosed : e.listening = false) (hinside : e.history.index < e.history.length)
    (hqueue : InnerOnly e.queue) (hown : P e.own) (steps : List Step)
    (hhonest : ∀ s ∈ steps, Honest s) {i j : Intent} {e' : Engine ω} {viewId : String}
    {params : List (String × String)} (hhandles : Handles tell e.start steps i e')
    (hsettled : (process tell e' i).1 = .ok (.settled j viewId params)) :
    (process tell e' i).2.trail.stack[(process tell e' i).2.trail.position]? =
        some (process tell e' i).2.trail.currentPath ∧
      (process tell e' i).2.trail.currentPath = (process tell e' i).2.history.current ∧
      ((process tell e' i).2.offset + (process tell e' i).2.trail.position =
        (process tell e' i).2.history.index ∨
          (¬ i.trigger.isExternal ∧ ∃ k e'', Handles tell e.start steps k e'' ∧
            Strands tell e'' k)) := by
  have hstart : Attends P Standing.Marked (∃ k e'', Handles tell e.start steps k e'' ∧
      Strands tell e'' k) e.start :=
    attends_start _ hclosed hinside hqueue hown rfl
  obtain ⟨e₀, rest, hattends, hwaits, rfl⟩ :=
    (lasting_attends hquiet sustained_marked).handles hhandles hstart hhonest
      fun k e'' hhandles' hstrands => ⟨k, e'', hhandles', hstrands⟩
  obtain ⟨hrest, hreports⟩ := hattends.report i rest hwaits
  have hends := process_quiet hquiet (e := { e₀ with queue := rest }) hattends.own hsettled
  have hstanding := hends.of_settled
  have hmarked : (process tell { e₀ with queue := rest } i).2.standing.Marked := by
    rw [hstanding]
    exact Standing.marked_settled hattends.base
  have hcurrent := Standing.current_settled (s := e₀.standing) hattends.inside hreports
  refine ⟨hmarked, ?_, ?_⟩
  · have hpath := congrArg (fun s : Standing => s.trail.currentPath) hstanding
    have hshown := congrArg (fun s : Standing => s.history.current) hstanding
    exact hpath.trans (hcurrent.trans hshown.symm)
  · by_cases houter : i.trigger.isExternal
    · left
      have hlevel :=
        Standing.level_settled (s := e₀.standing) hattends.inside (Or.inl (hreports houter))
      exact (hstanding ▸ hlevel : (process tell { e₀ with queue := rest } i).2.standing.Level).1
    · have hinner : InnerOnly e₀.queue := by
        rw [hwaits]
        exact List.forall_mem_cons.mpr ⟨houter, hrest⟩
      rcases hattends.level hinner with hastray | hlevel
      · exact Or.inr ⟨houter, hastray⟩
      · left
        have hlevel' :=
          Standing.level_settled (s := e₀.standing) hattends.inside (Or.inr ⟨houter, hlevel⟩)
        exact (hstanding ▸ hlevel' : (process tell { e₀ with queue := rest } i).2.standing.Level).1

/-- A page that is opened on a view for those who are signed in, in a browser that refuses the
second write. -/
def brittlePage : Engine Audience where
  views :=
    [Route.Call.add "GET" "/" "home" .anonymous none,
      .add "GET" "/items" "items.list" .authenticated none].foldl
      Route.Table.perform .empty
  history := .start "/items"
  refuses := fun n _ => n == 1
  now := 0
  own := ({} : Audience).subscribe "view" .note 0

theorem brittlePage_passive : brittlePage.own.Passive := by
  simp [Audience.Passive, brittlePage, Audience.subscribe, Listener.callsBack]

/-- A click whose write is refused, a move back that is taken back, and a click that settles. -/
def mendedVisit : List Step :=
  [.submit "/" .userClick false none, .process 0, .submit "/" .programmatic true none, .process 0,
    .travel .back, .process 0, .submit "/" .userClick false none, .process 0]

theorem process_settled_aligned_brittlePage :
    ∃ i e', Handles tellAll brittlePage.start mendedVisit i e' ∧
      (process tellAll e' i).2.trail.currentPath = (process tellAll e' i).2.history.current ∧
      ((process tellAll e' i).2.offset + (process tellAll e' i).2.trail.position =
          (process tellAll e' i).2.history.index ∨
        (¬ i.trigger.isExternal ∧
          ∃ k e'', Handles tellAll brittlePage.start mendedVisit k e'' ∧
            Strands tellAll e'' k)) := by
  have hhonest : ∀ s ∈ mendedVisit, Honest s := by
    simp [mendedVisit, Honest, Trigger.isExternal]
  have hhandles : Handles tellAll brittlePage.start mendedVisit _ _ :=
    .later (.later (.later (.later (.later (.later (.later (.process (.first rfl))))))))
  have h := process_settled_aligned tellAll_quietOn brittlePage rfl (by decide) innerOnly_nil
    brittlePage_passive
    mendedVisit hhonest hhandles (j := _) rfl
  exact ⟨_, _, hhandles, h.2⟩

/-- A move back that can be neither followed nor taken back, and a click that settles. -/
def strandedVisit : List Step :=
  [.submit "/" .userClick false none, .process 0, .travel .back, .process 0,
    .submit "/" .userClick false none, .process 0]

/-- After a stranded move the next click settles on another entry than the browser's. -/
theorem process_settled_astray :
    brittlePage.own.Passive ∧ (∀ s ∈ strandedVisit, Honest s) ∧
      ∃ i e' j viewId params, Handles tellAll brittlePage.start strandedVisit i e' ∧
        (process tellAll e' i).1 = .ok (.settled j viewId params) ∧
        (process tellAll e' i).2.offset + (process tellAll e' i).2.trail.position ≠
          (process tellAll e' i).2.history.index := by
  have hhonest : ∀ s ∈ strandedVisit, Honest s := by
    simp [strandedVisit, Honest, Trigger.isExternal]
  refine ⟨brittlePage_passive, hhonest, _, _, _, _, _,
    .later (.later (.later (.later (.later (.process (.first rfl)))))), rfl, ?_⟩
  decide

end Engine

end Waypost.Browser
