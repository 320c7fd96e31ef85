import Waypost.Proofs.Browser.Audience
import Waypost.Proofs.Browser.Run
import Waypost.Proofs.Route.Registration

/-!
# The engine follows the browser

The browser moves first and the engine hears of it through an intent, so that the two are apart
while the intent waits. All that waits beside it was submitted later and by no move.

* `Level` : the engine is on the entry that the browser is on; `Reports` : an intent tells of the
  move that brought the browser there;
* `Follows` : the two are level, or the first of the waiting intents, and no other, reports the
  browser's move;
* `Upheld` : what the outcomes of an intent have to preserve for a property of the standing to hold
  along a run (`run_follows`);
* `Mirrored` : the trail is the whole history, as it is and stays for an engine that starts on a
  history with one entry (`upheld_mirrored`).
-/

namespace Waypost.Browser

open Access Time

/-! ## Places of the history -/

namespace History

theorem current_push {h : History} (hin : h.index < h.entries.length) (path : String) :
    (h.push path).current = path := by
  have hlength : (h.entries.take (h.index + 1)).length = h.index + 1 := by
    rw [List.length_take]
    omega
  unfold History.current History.push
  dsimp only
  rw [List.getD_eq_getElem?_getD, List.getElem?_append_right (by omega), hlength]
  simp

theorem current_replace {h : History} (hin : h.index < h.entries.length) (path : String) :
    (h.replace path).current = path := by
  unfold History.current History.replace
  rw [List.getD_eq_getElem?_getD]
  simp [hin]

theorem set_current {h : History} (hin : h.index < h.entries.length) :
    h.entries.set h.index h.current = h.entries := by
  unfold History.current
  rw [List.getD_eq_getElem?_getD, List.getElem?_eq_getElem hin, Option.getD_some,
    List.set_getElem_self]

end History

/-! ## Level and due -/

namespace Standing

/-- The browser is on one of its entries. -/
def Inside (s : Standing) : Prop :=
  s.history.index < s.history.entries.length

/-- The engine is on the entry that the browser is on. -/
def Level (s : Standing) : Prop :=
  s.offset + s.trail.position = s.history.index ∧ s.trail.currentPath = s.history.current

/-- An intent tells of the move that brought the browser where it is. -/
def Reports (s : Standing) (i : Intent) : Prop :=
  i.trigger.isExternal ∧ i.historyIndex = some (s.history.index : Int) ∧ i.path = s.history.current

/-- An intent is due: it tells of the browser's move, or the browser has not moved. -/
def Due (s : Standing) (i : Intent) : Prop :=
  s.Reports i ∨ (¬ i.trigger.isExternal ∧ s.Level)

/-! ## The outcomes of an intent that is due -/

theorem inside_settled {s : Standing} {i : Intent} (hin : s.Inside) : (s.settled i).Inside := by
  unfold Inside settled at *
  split_ifs
  · exact hin
  · simpa [History.replace] using hin
  · simp only [History.push, List.length_append, List.length_take, List.length_singleton]
    omega

theorem inside_corrected {s : Standing} {i : Intent} (hin : s.Inside) : (s.corrected i).Inside := by
  unfold Inside corrected History.replace at *
  simpa using hin

/-- An intent that is due takes the engine to where the browser is. -/
theorem level_settled {s : Standing} {i : Intent} (hin : s.Inside) (hdue : s.Due i) :
    (s.settled i).Level := by
  unfold settled
  rcases hdue with ⟨houter, hstamp, hpath⟩ | ⟨hinner, hplace, -⟩
  · rw [if_pos houter, hstamp]
    exact ⟨Trail.moved_place s.trail s.offset s.history.index i.path, hpath⟩
  · rw [if_neg hinner]
    unfold Trail.committed
    split_ifs
    · exact ⟨hplace, (History.current_replace hin i.path).symm⟩
    · refine ⟨?_, (History.current_push hin i.path).symm⟩
      simp only [History.push]
      omega

/-- A move that led to where the browser is and is undone leaves the engine there. -/
theorem level_undone {s : Standing} {i : Intent} (hin : s.Inside)
    (hat : i.historyIndex = some (s.history.index : Int)) :
    (s.corrected i).Level := by
  unfold corrected
  rw [hat]
  refine ⟨Trail.moved_place s.trail s.offset s.history.index s.trail.currentPath, ?_⟩
  rw [Trail.moved_currentPath, History.current_replace hin]

/-- A move that is undone leaves the engine where the browser is. -/
theorem level_corrected {s : Standing} {i : Intent} (hin : s.Inside) (hreports : s.Reports i) :
    (s.corrected i).Level :=
  level_undone hin hreports.2.1

end Standing

/-- What the outcomes of an intent have to preserve of a property of the standing. -/
structure Upheld (Base : Standing → Prop) : Prop where
  moved : ∀ {s : Standing} {h : History} {t : Trigger}, Base s → s.history.move? t = some h →
    Base { s with history := h }
  settled : ∀ {s : Standing} {i : Intent}, Base s → s.Inside → s.Due i → Base (s.settled i)
  corrected : ∀ {s : Standing} {i : Intent}, Base s → s.Inside → s.Reports i → Base (s.corrected i)

namespace Engine

variable {ω : Type} {tell : Event → Engine ω → Engine ω} {P : ω → Prop} {Base : Standing → Prop}

/-- None of these intents tells of a move of the browser. -/
def InnerOnly (queue : List Intent) : Prop :=
  ∀ i ∈ queue, ¬ i.trigger.isExternal

/-- The engine is level with the browser, or the first intent that waits, and no other, reports the
browser's move. -/
def UpToReport (s : Standing) (queue : List Intent) : Prop :=
  (InnerOnly queue ∧ s.Level) ∨ ∃ i rest, queue = i :: rest ∧ s.Reports i ∧ InnerOnly rest

/-- The engine listens to a browser that takes every write, and follows it. -/
structure Follows (P : ω → Prop) (Base : Standing → Prop) (e : Engine ω) : Prop where
  own : P e.own
  listens : e.listening = true
  writable : ∀ n w, e.refuses n w = false
  inside : e.standing.Inside
  base : Base e.standing
  report : UpToReport e.standing e.queue

theorem UpToReport.head {s : Standing} {i : Intent} {rest : List Intent}
    (h : UpToReport s (i :: rest)) :
    s.Due i ∧ InnerOnly rest := by
  rcases h with ⟨hinner, hlevel⟩ | ⟨j, rest', hqueue, hreports, hrest⟩
  · exact ⟨Or.inr ⟨hinner i List.mem_cons_self, hlevel⟩, fun j hj =>
      hinner j (List.mem_cons_of_mem i hj)⟩
  · obtain ⟨rfl, rfl⟩ := List.cons.inj hqueue
    exact ⟨Or.inl hreports, hrest⟩

/-! ## Submissions and moves -/

theorem supersedes_of_inner {new : Intent} (hnew : ¬ new.trigger.isExternal) (old : Intent) :
    supersedes new old = !old.trigger.isExternal := by
  unfold supersedes
  simp [hnew]

theorem supersedes_of_outer {new : Intent} (hnew : new.trigger.isExternal) (old : Intent) :
    supersedes new old = true := by
  unfold supersedes
  simp [hnew]

/-- A click takes the place of the clicks that wait, and waits behind a move of the browser. -/
theorem UpToReport.submit {s : Standing} {queue : List Intent} {new : Intent}
    (hnew : ¬ new.trigger.isExternal) (h : UpToReport s queue) :
    UpToReport s ((queue.filter fun old => !supersedes new old) ++ [new]) := by
  simp only [supersedes_of_inner hnew, Bool.not_not]
  have hnone : ∀ {inner : List Intent}, InnerOnly inner →
      (inner.filter fun old => old.trigger.isExternal) = [] :=
    fun hinner => List.filter_eq_nil_iff.mpr hinner
  have hlast : InnerOnly [new] := by
    intro i hi
    rw [List.mem_singleton.mp hi]
    exact hnew
  rcases h with ⟨hinner, hlevel⟩ | ⟨i, rest, rfl, hreports, hrest⟩
  · left
    rw [hnone hinner]
    exact ⟨hlast, hlevel⟩
  · right
    refine ⟨i, [new], ?_, hreports, hlast⟩
    rw [List.filter_cons, if_pos hreports.1, hnone hrest]
    rfl

/-- A move of the browser takes the place of all that waits. -/
theorem UpToReport.move {s : Standing} {new : Intent} (hnew : s.Reports new) (queue : List Intent) :
    UpToReport s ((queue.filter fun old => !supersedes new old) ++ [new]) := by
  right
  refine ⟨new, [], ?_, hnew, nofun⟩
  simp [supersedes_of_outer hnew.1]

theorem reports_newIntent (e : Engine ω) {t : Trigger} (houter : t.isExternal) :
    e.standing.Reports (e.newIntent e.history.current t false (some e.history.index)) := by
  unfold newIntent
  rw [if_pos houter]
  exact ⟨houter, rfl, rfl⟩

theorem submit_follows (hquiet : QuietOn P tell) {e : Engine ω} (h : Follows P Base e)
    (path : String) {trigger : Trigger} (hinner : ¬ trigger.isExternal) (replace : Bool)
    (index : Option Int) :
    Follows P Base (e.submit tell path trigger replace index).2 := by
  obtain ⟨own, journal, source, wallet, now, outcomes, hown, hsubmit⟩ :=
    submit_quiet hquiet e h.own path trigger replace index
  rw [hsubmit]
  exact ⟨hown, h.listens, h.writable, h.inside, h.base, h.report.submit hinner⟩

theorem travel_follows (hquiet : QuietOn P tell) (hbase : Upheld Base) {e : Engine ω}
    (h : Follows P Base e) (t : Trigger) :
    Follows P Base (e.travel tell t).2 := by
  unfold travel
  split
  · exact h
  · rename_i h' hmove
    obtain ⟨houter, -, hinside⟩ := History.move?_spec hmove
    dsimp only
    rw [if_pos h.listens]
    obtain ⟨own, journal, source, wallet, now, outcomes, hown, hsubmit⟩ :=
      submit_quiet hquiet { e with history := h' } h.own h'.current t false (some h'.index)
    rw [hsubmit]
    exact ⟨hown, h.listens, h.writable, hinside h.inside, hbase.moved h.base hmove,
      UpToReport.move (reports_newIntent { e with history := h' } houter) e.queue⟩

/-! ## Dealing with intents -/

/-- An intent that is due leaves the engine level with the browser, however it ends. -/
theorem Ends.follows (hbase : Upheld Base) {e : Engine ω} {i : Intent} {ev : Event} {s : Standing}
    (hends : Ends e i ev s) (hwritable : ∀ n w, e.refuses n w = false) (hinside : e.standing.Inside)
    (h : Base e.standing) (hdue : e.standing.Due i) :
    s.Inside ∧ Base s ∧ s.Level := by
  cases hends with
  | settled hview hread hguard hwrite =>
    exact ⟨Standing.inside_settled hinside, hbase.settled h hinside hdue,
      Standing.level_settled hinside hdue⟩
  | unwritten err hpermits hinner hwrite => exact absurd hwrite (by simp [hwritable])
  | refused hrefusal hturned =>
    cases hturned with
    | dismissed hinner =>
      rcases hdue with hreports | ⟨-, hlevel⟩
      · exact absurd hreports.1 hinner
      · exact ⟨hinside, h, hlevel⟩
    | undone houter hundoing =>
      rcases hdue with hreports | ⟨hinner, -⟩
      · cases hundoing
        exact ⟨Standing.inside_corrected hinside, hbase.corrected h hinside hreports,
          Standing.level_corrected hinside hreports⟩
      · exact absurd houter hinner
    | stranded houter hundoing =>
      rcases hdue with hreports | ⟨hinner, -⟩
      · cases hundoing with
        | left hat => exact absurd hreports.2.1 hat
        | unwritten hat hwrite => exact absurd hwrite (by simp [hwritable])
      · exact absurd houter hinner

theorem processNext_follows (hquiet : QuietOn P tell) (hbase : Upheld Base) {e e' : Engine ω}
    (h : Follows P Base e) (hnext : e.processNext tell = some (.ok (), e')) :
    Follows P Base e' := by
  obtain ⟨i, rest, hqueue⟩ := exists_cons_of_processNext hnext
  obtain ⟨hown, hqueue', hlistening, hrefuses, ev, hends⟩ :=
    processNext_quiet hquiet h.own hqueue hnext
  have hreport := h.report
  rw [hqueue] at hreport
  obtain ⟨hdue, hrest⟩ := hreport.head
  obtain ⟨hinside, hbase', hlevel⟩ := hends.follows hbase h.writable h.inside h.base hdue
  exact ⟨hown, hlistening.trans h.listens, by rw [hrefuses]; exact h.writable, hinside, hbase',
    Or.inl ⟨by rw [hqueue']; exact hrest, hlevel⟩⟩

/-- A step by which only the browser itself submits its moves. -/
def Honest : Step → Prop
  | .submit _ trigger _ _ => ¬ trigger.isExternal
  | _ => True

theorem perform_follows (hquiet : QuietOn P tell) (hbase : Upheld Base) {e : Engine ω} {s : Step}
    (hhonest : Honest s) (h : Follows P Base e) (hok : (e.perform tell s).1 = .ok ()) :
    Follows P Base (e.perform tell s).2 := by
  cases s with
  | submit path trigger replace index => exact submit_follows hquiet h path hhonest replace index
  | travel t => exact travel_follows hquiet hbase h t
  | next =>
    unfold perform at hok ⊢
    cases hnext : e.processNext tell with
    | none => exact h
    | some result =>
      obtain ⟨r, e'⟩ := result
      rw [hnext] at hok
      obtain rfl : r = .ok () := hok
      exact processNext_follows hquiet hbase h hnext
  | process more =>
    cases hresult : (e.processPending tell more).1 with
    | error f =>
      simp only [perform, hresult] at hok
      exact absurd hok (by simp [Except.map])
    | ok n =>
      exact processFor_keeps (fun e e' h hnext => processNext_follows hquiet hbase h hnext) _
        0 e h hresult
  | credential source wallet => exact ⟨h.own, h.listens, h.writable, h.inside, h.base, h.report⟩
  | clock now => exact ⟨h.own, h.listens, h.writable, h.inside, h.base, h.report⟩

/-- An engine that follows the browser follows it along every run. -/
theorem run_follows (hquiet : QuietOn P tell) (hbase : Upheld Base) {e : Engine ω}
    {steps : List Step} (hhonest : ∀ s ∈ steps, Honest s) (hsmooth : Smooth tell e steps)
    (h : Follows P Base e) :
    Follows P Base (run tell e steps) :=
  hsmooth.keeps (fun _ _ hs h hok => perform_follows hquiet hbase hs h hok) hhonest h

/-! ## The trail is the history -/

/-- The trail is the whole history. -/
def Mirrored (s : Standing) : Prop :=
  s.trail.stack = s.history.entries ∧ s.offset = 0

theorem Mirrored.moved {s : Standing} (h : Mirrored s) (hin : s.Inside) (path : String) :
    s.trail.moved s.offset s.history.index path =
      ({ s.trail with
          stack := s.history.entries.set s.history.index path
          position := s.history.index }, s.offset) := by
  obtain ⟨hstack, hoffset⟩ := h
  have hknown : s.history.index < s.trail.stack.length := by
    rw [hstack]
    exact hin
  have hmoved := Trail.moved_of_known s.trail s.offset path hknown
  rw [hoffset, Int.zero_add, hstack] at hmoved
  rw [hoffset, hmoved]

theorem upheld_mirrored : Upheld Mirrored where
  moved := by
    intro s h t hbase hmove
    exact ⟨hbase.1.trans (History.move?_spec hmove).2.1.symm, hbase.2⟩
  settled := by
    intro s i hbase hin hdue
    unfold Standing.settled
    rcases hdue with ⟨houter, hstamp, hpath⟩ | ⟨hinner, hplace, -⟩
    · rw [if_pos houter, hstamp]
      refine ⟨?_, ?_⟩
      · simp only [Option.getD_some, hbase.moved hin, hpath]
        exact History.set_current hin
      · simp only [Option.getD_some, hbase.moved hin]
        exact hbase.2
    · -- Level engines write where the browser writes.
      have hposition : s.trail.position = s.history.index := by
        rw [hbase.2] at hplace
        omega
      rw [if_neg hinner]
      refine ⟨?_, hbase.2⟩
      unfold Trail.committed
      split_ifs
      · simp only [History.replace, hbase.1, hposition]
      · simp only [History.push, hbase.1, hposition]
  corrected := by
    intro s i hbase hin hreports
    unfold Standing.corrected
    rw [hreports.2.1]
    refine ⟨?_, ?_⟩
    · simp only [Option.getD_some, hbase.moved hin, History.replace]
    · simp only [Option.getD_some, hbase.moved hin]
      exact hbase.2

/-- An engine that starts on a history with one entry has the whole history as its trail after every
run, and is on the entry that the browser is on whenever no move of the browser waits. -/
theorem run_mirrored (hquiet : QuietOn P tell) (e : Engine ω) (path : String)
    (hhistory : e.history = .start path) (hclosed : e.listening = false)
    (hqueue : InnerOnly e.queue) (hwritable : ∀ n w, e.refuses n w = false) (hown : P e.own)
    (steps : List Step) (hhonest : ∀ s ∈ steps, Honest s) (hsmooth : Smooth tell e.start steps) :
    (run tell e.start steps).trail.stack = (run tell e.start steps).history.entries ∧
      (InnerOnly (run tell e.start steps).queue →
        (run tell e.start steps).trail.position = (run tell e.start steps).history.index ∧
          (run tell e.start steps).trail.currentPath =
            (run tell e.start steps).history.current) := by
  have hstart : Follows P Mirrored e.start := by
    unfold start
    rw [if_neg (by simp [hclosed])]
    refine ⟨hown, rfl, hwritable, ?_, ?_, Or.inl ⟨hqueue, ?_⟩⟩
    · unfold Standing.Inside standing
      simp [hhistory, History.start]
    · simp [Mirrored, standing, hhistory, History.start, Trail.start, History.current]
    · simp [Standing.Level, standing, hhistory, History.start, Trail.start, History.current]
  have hrun := run_follows hquiet upheld_mirrored hhonest hsmooth hstart
  refine ⟨hrun.base.1, fun hinner => ?_⟩
  rcases hrun.report with ⟨-, hplace, hcurrent⟩ | ⟨i, rest, hwaits, hreports, -⟩
  · have hoffset := hrun.base.2
    rw [hoffset, Int.zero_add] at hplace
    exact ⟨Int.ofNat_inj.mp hplace, hcurrent⟩
  · refine absurd hreports.1 (hinner i ?_)
    rw [hwaits]
    exact List.mem_cons_self

/-- A page with a view for everyone and one for those who are signed in, and one who takes note of
every event. -/
def itemPage : Engine Audience where
  views :=
    [Route.Call.add "GET" "/" "home" .anonymous none,
      .add "GET" "/items" "items.list" .authenticated none].foldl
      Route.Table.perform .empty
  history := .start "/"
  now := 0
  own := ({} : Audience).subscribe "view" .note 0

/-- Someone signs in, goes to the items and back; once the session has ended, the way forward is
closed. -/
def itemVisit : List Step :=
  [.credential (.given (some ⟨"t", .authenticated, 10, "u"⟩)) {},
    .submit "/items" .userClick false none, .process 0,
    .travel .back, .submit "/lost" .programmatic true none, .process 0, .clock 10,
    .travel .forward, .process 0]

theorem run_mirrored_itemPage :
    (run tellAll itemPage.start itemVisit).trail.stack =
      (run tellAll itemPage.start itemVisit).history.entries ∧
      (run tellAll itemPage.start itemVisit).trail.position =
        (run tellAll itemPage.start itemVisit).history.index ∧
      (run tellAll itemPage.start itemVisit).trail.currentPath =
        (run tellAll itemPage.start itemVisit).history.current := by
  have hpassive : itemPage.own.Passive := by
    simp [Audience.Passive, itemPage, Audience.subscribe, Listener.callsBack]
  have hhonest : ∀ s ∈ itemVisit, Honest s := by
    simp [itemVisit, Honest, Trigger.isExternal]
  have hsmooth : Smooth tellAll itemPage.start itemVisit :=
    ⟨rfl, rfl, rfl, rfl, rfl, rfl, rfl, rfl, rfl, trivial⟩
  have hqueue : (run tellAll itemPage.start itemVisit).queue = [] := rfl
  have h := run_mirrored tellAll_quietOn itemPage "/" rfl rfl nofun (fun _ _ => rfl) hpassive
    itemVisit hhonest hsmooth
  rw [hqueue] at h
  exact ⟨h.1, h.2 nofun⟩

end Engine

end Waypost.Browser
