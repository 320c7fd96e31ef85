import Waypost.Proofs.Browser.Shelf
import Waypost.Proofs.Browser.Turns

/-!
# The data of a view are those of the page

Views are loaded while the engine goes on. A load that is given up may end all the same, and much
later; by then the engine may be somewhere else.

* `Faithful` : each load belongs to a settled intent, the latest one to the page that the engine is
  on, and what was told of views came from loads that have ended; `lasting_faithful`,
  `take_faithful`, `life_faithful`;
* `views_never_stale` : whoever hears of a view's data hears of those of the page, and once.
-/

namespace Waypost.Browser

namespace Engine

variable {ω : Type} {tell : Event → Engine ω → Engine ω}

/-! ## Loads and what is told of them -/

/-- Each load belongs to a settled intent, in order, and the latest to the page that the engine is
on. Every intent that was told to have ended has ended so. What was told of views came from loads
that have ended, once from each. -/
structure Faithful (e : Engine (ω × List Event)) : Prop where
  orderly : Orderly e
  loading : e.loading = true
  settled : e.loads.map Load.intent = e.own.2.filterMap Event.settled?
  latest : ∀ i, (e.loads.map Load.intent).getLast? = some i →
    e.loadGeneration = i.generation ∧ e.trail.currentPath = i.path
  apart : ((e.loads.map Load.intent).map Intent.generation).Nodup
  ended : ∀ ev ∈ e.own.2, ev.isFinal → Keyed.get? ev.intent.generation e.outcomes = some (.event ev)
  shown : ∀ ev ∈ e.own.2, ev.isView → ∃ l ∈ e.loads, l.finished = true ∧ l.intent = ev.intent
  once : ((e.own.2.filter Event.isView).map fun ev => ev.intent.generation).Nodup

theorem Shelf.after_of_unsettled (s : Shelf) {ev : Event} (h : ev.settled? = none) :
    s.after ev = s := by
  cases ev with
  | settled i viewId params => cases h
  | blocked i reason corrected => rfl
  | failed i fault => rfl
  | superseded i by_ => rfl
  | viewLoaded i data => rfl
  | viewLoadFailed i fault => rfl

namespace Faithful

variable {e e' : Engine (ω × List Event)}

/-- For each load the settled intent was told of. -/
theorem exists_settled (h : Faithful e) {i : Intent} (hi : i ∈ e.loads.map Load.intent) :
    ∃ viewId params, .settled i viewId params ∈ e.own.2 := by
  rw [h.settled] at hi
  obtain ⟨ev, hev, hsettled⟩ := List.mem_filterMap.mp hi
  cases ev with
  | settled j viewId params =>
    obtain rfl := Option.some.inj hsettled
    exact ⟨viewId, params, hev⟩
  | _ => cases hsettled

/-- A step that settles nothing. -/
theorem stays (h : Faithful e) (horderly : Orderly e') (hshelf : e'.shelf = e.shelf)
    (hpath : e'.trail.currentPath = e.trail.currentPath)
    (houtcomes : ∀ g, Gone e g → Keyed.get? g e'.outcomes = Keyed.get? g e.outcomes)
    {more : List Event} (htold : e'.own.2 = e.own.2 ++ more) (hmore : Dismissals more e') :
    Faithful e' := by
  have hloading : e'.loading = e.loading := congrArg Shelf.loading hshelf
  have hloads : e'.loads = e.loads := congrArg Shelf.loads hshelf
  have hgeneration : e'.loadGeneration = e.loadGeneration := congrArg Shelf.loadGeneration hshelf
  have hsettled : more.filterMap Event.settled? = [] :=
    List.filterMap_eq_nil_iff.mpr fun ev hev => (hmore ev hev).1
  have hviews : more.filter Event.isView = [] :=
    List.filter_eq_nil_iff.mpr fun ev hev => Bool.eq_false_iff.mp (hmore ev hev).2.1
  refine ⟨horderly, hloading.trans h.loading, ?_, ?_, ?_, ?_, ?_, ?_⟩
  · rw [hloads, htold, List.filterMap_append, hsettled, List.append_nil]
    exact h.settled
  · rw [hloads, hgeneration, hpath]
    exact h.latest
  · rw [hloads]
    exact h.apart
  · rw [htold]
    refine List.forall_mem_append.mpr ⟨fun ev hev hfinal => ?_, fun ev hev _ => (hmore ev hev).2.2⟩
    have hheard := h.ended ev hev hfinal
    exact (houtcomes _ (h.orderly.gone hheard)).trans hheard
  · rw [htold, hloads]
    refine List.forall_mem_append.mpr ⟨h.shown, fun ev hev hview => ?_⟩
    rw [(hmore ev hev).2.1] at hview
    cases hview
  · rw [htold, List.filter_append, hviews, List.append_nil]
    exact h.once

theorem aloof (h : Faithful e) (haloof : Aloof [] e e') {more : List Event}
    (htold : e'.own.2 = e.own.2 ++ more) (hmore : Dismissals more e') : Faithful e' :=
  h.stays (haloof.orderly h.orderly nofun) haloof.shelf haloof.path
    (fun g hg => haloof.outcomes g hg List.not_mem_nil) htold hmore

/-- An intent that settles gets a load of its own. -/
theorem settles (h : Faithful e) {i : Intent} {viewId : String} {params : List (String × String)}
    (hanswered : Answered i (.settled i viewId params) e e') (hpath : e'.trail.currentPath = i.path)
    (hunheard : Keyed.get? i.generation e.outcomes = none) : Faithful e' := by
  have hshelf : e'.shelf = ⟨e.loading, e.loads ++ [⟨i, viewId, params, false⟩], i.generation⟩ := by
    rw [hanswered.shelf, Shelf.after]
    exact if_pos h.loading
  have hloading : e'.loading = e.loading := congrArg Shelf.loading hshelf
  have hloads : e'.loads = e.loads ++ [⟨i, viewId, params, false⟩] := congrArg Shelf.loads hshelf
  have hgeneration : e'.loadGeneration = i.generation := congrArg Shelf.loadGeneration hshelf
  have hintents : e'.loads.map Load.intent = e.loads.map Load.intent ++ [i] := by
    rw [hloads, List.map_append]
    rfl
  refine ⟨hanswered.orderly, hloading.trans h.loading, ?_, ?_, ?_, ?_, ?_, ?_⟩
  · rw [hintents, hanswered.told, List.filterMap_append, h.settled]
    rfl
  · intro j hj
    rw [hintents, List.getLast?_concat] at hj
    obtain rfl := Option.some.inj hj
    exact ⟨hgeneration, hpath⟩
  · rw [hintents, List.map_append, List.map_singleton]
    refine h.apart.append (List.nodup_singleton _) (List.disjoint_singleton.mpr fun hmem => ?_)
    -- An intent with a load has ended before.
    obtain ⟨j, hj, hsame⟩ := List.mem_map.mp hmem
    obtain ⟨viewId', params', htold⟩ := h.exists_settled hj
    have hheard := h.ended _ htold rfl
    rw [show (Event.settled j viewId' params').intent.generation = i.generation from hsame,
      hunheard] at hheard
    cases hheard
  · rw [hanswered.told]
    refine List.forall_mem_append.mpr ⟨fun ev hev hfinal => ?_,
      List.forall_mem_singleton.mpr fun _ => hanswered.outcome⟩
    have hheard := h.ended ev hev hfinal
    exact (hanswered.outcomes _ (h.orderly.gone hheard)).trans hheard
  · rw [hanswered.told, hloads]
    refine List.forall_mem_append.mpr ⟨fun ev hev hview => ?_,
      List.forall_mem_singleton.mpr fun hview => (Bool.false_ne_true hview).elim⟩
    obtain ⟨l, hl, hfinished⟩ := h.shown ev hev hview
    exact ⟨l, List.mem_append_left _ hl, hfinished⟩
  · rw [hanswered.told, List.filter_append]
    simpa [Event.isView] using h.once

end Faithful

/-- Since the list of events was `told`, no view has been told of. -/
def NoViewsSince (told : List Event) (e : Engine (ω × List Event)) : Prop :=
  ∃ more, e.own.2 = told ++ more ∧ ∀ ev ∈ more, ev.isView = false

theorem NoViewsSince.add {told more : List Event} {e e' : Engine (ω × List Event)}
    (h : NoViewsSince told e) (htold : e'.own.2 = e.own.2 ++ more)
    (hmore : ∀ ev ∈ more, ev.isView = false) : NoViewsSince told e' := by
  obtain ⟨before, hbefore, hviews⟩ := h
  refine ⟨before ++ more, ?_, List.forall_mem_append.mpr ⟨hviews, hmore⟩⟩
  rw [htold, hbefore, List.append_assoc]

/-- The steps of an engine keep it faithful, and tell of no views. -/
theorem lasting_faithful (htell : Steadfast tell) (told : List Event) :
    Lasting (chronicled tell) (fun _ => True) (fun _ _ => True) fun e => Faithful e ∧
      NoViewsSince told e where
  submit := by
    rintro e path trigger replace index ⟨h, hsince⟩ -
    obtain ⟨more, htold, hmore⟩ := submit_told htell h.orderly path trigger replace index
    have haloof := submit_aloof (chronicled_steadfast htell) e path trigger replace index
    exact ⟨h.aloof haloof htold hmore, hsince.add htold fun ev hev => (hmore ev hev).2.1⟩
  travel := by
    rintro e t ⟨h, hsince⟩
    obtain ⟨more, htold, hmore⟩ := travel_told htell h.orderly t
    exact ⟨h.aloof (travel_aloof (chronicled_steadfast htell) e t) htold hmore,
      hsince.add htold fun ev hev => (hmore ev hev).2.1⟩
  credential := fun _ _ ⟨h, hsince⟩ =>
    ⟨h.aloof (Aloof.of_same rfl rfl rfl rfl rfl) (List.append_nil _).symm (dismissals_nil _),
      hsince⟩
  clock := fun _ ⟨h, hsince⟩ =>
    ⟨h.aloof (Aloof.of_same rfl rfl rfl rfl rfl) (List.append_nil _).symm (dismissals_nil _),
      hsince⟩
  next := by
    rintro e e' i rest r ⟨h, hsince⟩ hqueue - hnext
    cases r with
    | error f =>
      obtain ⟨haloof, hown⟩ := processNext_lost htell hqueue hnext
      have htold : e'.own.2 = e.own.2 ++ [] := by rw [hown, List.append_nil]
      have hbefore : Faithful { e with queue := rest } :=
        ⟨(h.orderly.dequeue hqueue).1, h.loading, h.settled, h.latest, h.apart, h.ended,
          h.shown, h.once⟩
      exact ⟨hbefore.aloof haloof htold (dismissals_nil e'),
        hsince.add htold fun _ hev => (List.not_mem_nil hev).elim⟩
    | ok u =>
      obtain ⟨ev, hanswered⟩ := processNext_answered htell h.orderly hqueue hnext
      have hview := Event.isView_of_isFinal hanswered.final
      refine ⟨?_, hsince.add hanswered.told (List.forall_mem_singleton.mpr hview)⟩
      rcases hanswered.path with ⟨viewId, params, rfl, hpath⟩ | ⟨hunsettled, hpath⟩
      · exact h.settles hanswered hpath (h.orderly.unheard i (hqueue ▸ List.mem_cons_self))
      · refine h.stays hanswered.orderly
          (hanswered.shelf.trans (Shelf.after_of_unsettled _ hunsettled)) hpath
          hanswered.outcomes hanswered.told (List.forall_mem_singleton.mpr ⟨hunsettled, hview, ?_⟩)
        rw [hanswered.intent]
        exact hanswered.outcome

/-! ## Loads that end -/

theorem viewEvent_spec (i : Intent) (result : Except Fault Json) :
    (viewEvent i result).isView = true ∧ (viewEvent i result).settled? = none ∧
      (viewEvent i result).intent = i := by
  cases result <;> exact ⟨rfl, rfl, rfl⟩

theorem intents_markFinished (e : Engine ω) (n : Nat) :
    (e.markFinished n).loads.map Load.intent = e.loads.map Load.intent := by
  refine List.ext_getElem? fun k => ?_
  rw [List.getElem?_map, List.getElem?_map, markFinished, List.getElem?_modify]
  cases e.loads[k]? with
  | none => rfl
  | some l =>
    dsimp only [Option.map_eq_map, Option.map_some]
    split_ifs <;> rfl

theorem mem_markFinished {e : Engine ω} {l : Load} (hl : l ∈ e.loads)
    (hfinished : l.finished = true) (n : Nat) :
    l ∈ (e.markFinished n).loads := by
  obtain ⟨k, hk⟩ := List.mem_iff_getElem?.mp hl
  refine List.mem_iff_getElem?.mpr ⟨k, ?_⟩
  rw [markFinished, List.getElem?_modify, hk]
  have hsame : { l with finished := true } = l := by rw [← hfinished]
  dsimp only [Option.map_eq_map, Option.map_some]
  rw [hsame, ite_self]

theorem mem_markFinished_self {e : Engine ω} {n : Nat} {l : Load} (hload : e.loads[n]? = some l) :
    { l with finished := true } ∈ (e.markFinished n).loads := by
  refine List.mem_iff_getElem?.mpr ⟨n, ?_⟩
  rw [markFinished, List.getElem?_modify_eq, hload]
  rfl

namespace Faithful

variable {e e' : Engine (ω × List Event)}

/-- The latest load is the one of the last settled intent, which the engine is on. -/
theorem of_latest (h : Faithful e) {l : Load} (hl : l ∈ e.loads)
    (hlatest : l.intent.generation = e.loadGeneration) :
    (e.own.2.filterMap Event.settled?).getLast? = some l.intent ∧
      e.trail.currentPath = l.intent.path := by
  have hmem : l.intent ∈ e.loads.map Load.intent := List.mem_map_of_mem hl
  obtain ⟨i, hi⟩ := Option.isSome_iff_exists.mp (List.getLast?_isSome.mpr (List.ne_nil_of_mem hmem))
  obtain ⟨hgeneration, hpath⟩ := h.latest i hi
  obtain rfl : l.intent = i :=
    List.inj_on_of_nodup_map h.apart hmem (List.mem_of_getLast? hi) (hlatest.trans hgeneration)
  exact ⟨h.settled ▸ hi, hpath⟩

/-- Of a load that has not ended nothing has been told. -/
theorem generation_notMem (h : Faithful e) {l : Load} (hl : l ∈ e.loads)
    (hunfinished : l.finished = false) :
    l.intent.generation ∉ (e.own.2.filter Event.isView).map fun ev => ev.intent.generation := by
  intro hmem
  obtain ⟨ev, hev, hsame⟩ := List.mem_map.mp hmem
  obtain ⟨htold, hview⟩ := List.mem_filter.mp hev
  obtain ⟨l', hl', hfinished, hintent⟩ := h.shown ev htold hview
  have hapart : (e.loads.map fun l => l.intent.generation).Nodup := by
    have hnodup := h.apart
    rwa [List.map_map] at hnodup
  obtain rfl : l' = l := List.inj_on_of_nodup_map hapart hl' hl (by rw [hintent]; exact hsame)
  rw [hunfinished] at hfinished
  cases hfinished

theorem dropped (h : Faithful e) (n : Nat) : Faithful (e.markFinished n) := by
  have hintents := intents_markFinished e n
  refine ⟨⟨h.orderly.known, h.orderly.nodup, h.orderly.unheard, h.orderly.ahead⟩, h.loading,
    hintents.trans h.settled, ?_, ?_, h.ended, ?_, h.once⟩
  · rw [hintents]
    exact h.latest
  · rw [hintents]
    exact h.apart
  · intro ev hev hview
    obtain ⟨l, hl, hfinished, hintent⟩ := h.shown ev hev hview
    exact ⟨l, mem_markFinished hl hfinished n, hfinished, hintent⟩

/-- Telling of a load that had not ended, and ending it. -/
theorem tells (h : Faithful e) (haloof : Aloof [] e e') {n : Nat} {l : Load}
    (hload : e.loads[n]? = some l) (hunfinished : l.finished = false) {result : Except Fault Json}
    (htold : e'.own.2 = e.own.2 ++ [viewEvent l.intent result]) : Faithful (e'.markFinished n) := by
  obtain ⟨hview, hunsettled, hintent⟩ := viewEvent_spec l.intent result
  generalize viewEvent l.intent result = ev at htold hview hunsettled hintent
  have hl : l ∈ e.loads := List.mem_iff_getElem?.mpr ⟨n, hload⟩
  have hloading : e'.loading = e.loading := congrArg Shelf.loading haloof.shelf
  have hloads : e'.loads = e.loads := congrArg Shelf.loads haloof.shelf
  have hgeneration : e'.loadGeneration = e.loadGeneration :=
    congrArg Shelf.loadGeneration haloof.shelf
  have hintents := intents_markFinished e' n
  have horderly := haloof.orderly h.orderly nofun
  rw [hloads] at hintents
  have hown : (e'.markFinished n).own.2 = e.own.2 ++ [ev] := htold
  refine ⟨⟨horderly.known, horderly.nodup, horderly.unheard, horderly.ahead⟩,
    hloading.trans h.loading, ?_, ?_, ?_, ?_, ?_, ?_⟩
  · rw [hintents, h.settled, hown, List.filterMap_append, List.filterMap_cons_none hunsettled,
      List.filterMap_nil, List.append_nil]
  · rw [hintents, show (e'.markFinished n).loadGeneration = e.loadGeneration from hgeneration,
      show (e'.markFinished n).trail.currentPath = e.trail.currentPath from haloof.path]
    exact h.latest
  · rw [hintents]
    exact h.apart
  · rw [hown]
    refine List.forall_mem_append.mpr ⟨fun ev' hev' hfinal => ?_,
      List.forall_mem_singleton.mpr fun hfinal => ?_⟩
    · have hheard := h.ended ev' hev' hfinal
      exact (haloof.outcomes _ (h.orderly.gone hheard) List.not_mem_nil).trans hheard
    · rw [Event.isView_of_isFinal hfinal] at hview
      cases hview
  · rw [hown]
    refine List.forall_mem_append.mpr ⟨fun ev' hev' hview' => ?_,
      List.forall_mem_singleton.mpr fun _ => ?_⟩
    · obtain ⟨l', hl', hfinished, hintent'⟩ := h.shown ev' hev' hview'
      exact ⟨l', mem_markFinished (hloads ▸ hl') hfinished n, hfinished, hintent'⟩
    · exact ⟨{ l with finished := true }, mem_markFinished_self (hloads ▸ hload), rfl, hintent.symm⟩
  · rw [hown, List.filter_append, List.filter_cons_of_pos hview, List.filter_nil, List.map_append,
      List.map_singleton, hintent]
    refine h.once.append (List.nodup_singleton _) (List.disjoint_singleton.mpr ?_)
    exact h.generation_notMem hl hunfinished

end Faithful

/-! ## Lives -/

/-- A turn keeps the engine faithful. If it tells of a view then of nothing else, and that view is
the one of the last settled intent, whose path the engine is on. -/
theorem take_faithful (htell : Steadfast tell) {e : Engine (ω × List Event)} (h : Faithful e)
    {t : Turn} (ht : t.goesOn) :
    Faithful (take (chronicled tell) e t) ∧
      ∃ more, (take (chronicled tell) e t).own.2 = e.own.2 ++ more ∧ ∀ ev ∈ more, ev.isView →
        more = [ev] ∧ (e.own.2.filterMap Event.settled?).getLast? = some ev.intent ∧
          e.trail.currentPath = ev.intent.path ∧
          ∃ n journal, take (chronicled tell) e t =
            (chronicled tell ev { e with journal }).markFinished n := by
  cases t with
  | start => cases ht
  | close => cases ht
  | step s =>
    have hsince : NoViewsSince e.own.2 e :=
      ⟨[], (List.append_nil _).symm, fun _ hev => (List.not_mem_nil hev).elim⟩
    obtain ⟨hafter, more, htold, hviews⟩ :=
      (lasting_faithful htell e.own.2).perform ⟨h, hsince⟩ trivial [] fun _ _ _ => trivial
    refine ⟨hafter, more, htold, fun ev hev hview => ?_⟩
    rw [hviews ev hev] at hview
    cases hview
  | dropped n =>
    exact ⟨h.dropped n, [], (List.append_nil _).symm, fun _ hev => (List.not_mem_nil hev).elim⟩
  | loaded n result =>
    rw [take]
    split_ifs with hloading
    · obtain ⟨l, hload, hunfinished⟩ := isLoading_iff.mp hloading
      have hl : l ∈ e.loads := List.mem_iff_getElem?.mpr ⟨n, hload⟩
      have hjournal : ∀ journal, Aloof [] e { e with journal } :=
        fun _ => Aloof.of_same rfl rfl rfl rfl rfl
      rcases receive_cases (chronicled tell) e hload result with
        ⟨hlatest, journal, hreceive⟩ | ⟨journal, hreceive⟩
      · obtain ⟨-, -, hintent⟩ := viewEvent_spec l.intent result
        obtain ⟨hlast, hpath⟩ := h.of_latest hl hlatest
        have haloof := (hjournal journal).trans
          (chronicled_steadfast htell (viewEvent l.intent result) { e with journal })
        rw [hreceive]
        refine ⟨h.tells haloof hload hunfinished rfl, [viewEvent l.intent result], rfl, ?_⟩
        refine List.forall_mem_singleton.mpr fun _ => ⟨rfl, ?_, ?_, n, journal, rfl⟩
        · rw [hintent]
          exact hlast
        · rw [hintent]
          exact hpath
      · rw [hreceive]
        have hkept : Faithful { e with journal } :=
          h.aloof (hjournal journal) (List.append_nil _).symm (dismissals_nil _)
        exact ⟨hkept.dropped n, [], (List.append_nil _).symm,
          fun _ hev => (List.not_mem_nil hev).elim⟩
    · exact ⟨h, [], (List.append_nil _).symm, fun _ hev => (List.not_mem_nil hev).elim⟩

theorem life_faithful (htell : Steadfast tell) {e : Engine (ω × List Event)} (h : Faithful e)
    {turns : List Turn} (hturns : ∀ t ∈ turns, t.goesOn) :
    Faithful (life (chronicled tell) e turns) :=
  life_keeps (I := Faithful) (fun _ _ ht he => (take_faithful htell he ht).1) hturns h

/-- An engine that has had no intents. -/
structure IsNew (e : Engine ω) : Prop where
  queue : e.queue = []
  generation : e.generation = 0
  outcomes : e.outcomes = []
  loads : e.loads = []

theorem IsNew.faithful {e : Engine ω} (h : e.IsNew) (hloading : e.loading = true) :
    Faithful e.start.enroll := by
  have hstart : e.start.queue = e.queue ∧ e.start.generation = e.generation ∧
      e.start.outcomes = e.outcomes ∧ e.start.loads = e.loads ∧ e.start.loading = e.loading := by
    unfold start
    split_ifs <;> exact ⟨rfl, rfl, rfl, rfl, rfl⟩
  obtain ⟨hqueue, hgeneration, houtcomes, hloads, hload⟩ := hstart
  rw [h.queue] at hqueue
  rw [h.outcomes] at houtcomes
  rw [h.loads] at hloads
  have hintents : e.start.enroll.loads.map Load.intent = [] :=
    congrArg (List.map Load.intent) hloads
  refine ⟨⟨?_, ?_, ?_, ?_⟩, hload.trans hloading, hintents, ?_, ?_, ?_, ?_, List.nodup_nil⟩
  · rw [show e.start.enroll.queue = [] from hqueue]
    exact fun _ hi => (List.not_mem_nil hi).elim
  · rw [show e.start.enroll.queue = [] from hqueue]
    exact List.nodup_nil
  · rw [show e.start.enroll.queue = [] from hqueue]
    exact fun _ hi => (List.not_mem_nil hi).elim
  · rw [show e.start.enroll.outcomes = [] from houtcomes]
    exact fun _ _ => rfl
  · rw [hintents]
    nofun
  · rw [hintents]
    exact List.nodup_nil
  · exact fun _ hev => (List.not_mem_nil hev).elim
  · exact fun _ hev => (List.not_mem_nil hev).elim

/-- An engine with views to load is started, and goes on. Whenever a turn tells those who listen of
the data of a view, or that there are none, it tells of nothing else; the view is that of the intent
that has settled last, and the engine is on its path at that moment. This happens once for an intent
at most, and that intent has settled and ended in no other way. Those who listen may call back, as
long as they leave alone what listeners cannot touch. -/
theorem views_never_stale (htell : Steadfast tell) {e : Engine ω} (hnew : e.IsNew)
    (hloading : e.loading = true) (turns : List Turn) (hturns : ∀ t ∈ turns, t.goesOn) :
    (∀ t : Turn, t.goesOn → ∃ more, told tell e.start (turns ++ [t]) =
      told tell e.start turns ++ more ∧
        ∀ ev ∈ more, ev.isView →
          more = [ev] ∧ ((told tell e.start turns).filterMap Event.settled?).getLast? =
            some ev.intent ∧
            ∃ n e₁, take tell (life tell e.start turns) t = (tell ev e₁).markFinished n ∧
              e₁.trail.currentPath = ev.intent.path) ∧
      (∀ g, ((told tell e.start turns).filter fun ev => ev.intent.generation == g &&
        ev.isView).length ≤ 1) ∧
      ∀ ev ∈ told tell e.start turns, ev.isView →
        ∃ viewId params, .settled ev.intent viewId params ∈ told tell e.start turns ∧
          (∀ ev' ∈ finalsOf ev.intent.generation (told tell e.start turns),
            ev' = .settled ev.intent viewId params) ∧
          Keyed.get? ev.intent.generation (life tell e.start turns).outcomes =
            some (.event (.settled ev.intent viewId params)) := by
  have hfaithful := life_faithful htell (hnew.faithful hloading) hturns
  refine ⟨fun t ht => ?_, fun g => ?_, fun ev hev hview => ?_⟩
  · obtain ⟨-, more, htold, hmore⟩ := take_faithful htell hfaithful ht
    refine ⟨more, ?_, fun ev hev hview => ?_⟩
    · rw [told, life_concat]
      exact htold
    · obtain ⟨halone, hlast, hpath, n, journal, htake⟩ := hmore ev hev hview
      refine ⟨halone, hlast, n, forget { life (chronicled tell) e.start.enroll turns with journal },
        ?_, hpath⟩
      rw [life_eq_forget, ← take_forget, htake]
      rfl
  · have hcount := List.nodup_iff_count_le_one.mp hfaithful.once g
    rw [List.count, List.countP_map, List.countP_filter, List.countP_eq_length_filter] at hcount
    exact hcount
  · obtain ⟨l, hl, -, hintent⟩ := hfaithful.shown ev hev hview
    obtain ⟨viewId, params, hsettled⟩ := hfaithful.exists_settled (List.mem_map_of_mem hl)
    rw [hintent] at hsettled
    have houtcome := hfaithful.ended _ hsettled rfl
    refine ⟨viewId, params, hsettled, fun ev' hev' => ?_, ?_⟩
    · obtain ⟨htold, hfinal⟩ := List.mem_filter.mp hev'
      rw [Bool.and_eq_true, beq_iff_eq] at hfinal
      have houtcome' := hfaithful.ended ev' htold hfinal.1
      rw [hfinal.2] at houtcome'
      exact Outcome.event.inj (Option.some.inj (houtcome'.symm.trans houtcome))
    · rw [life_eq_forget]
      exact houtcome

/-- A page with two views, one who takes note of every event, and one who leaves the first view that
settles. -/
def readingPage : Engine Audience where
  views :=
    [Route.Call.add "GET" "/" "home" .anonymous none,
      .add "GET" "/items" "items.list" .anonymous none].foldl
      Route.Table.perform .empty
  history := .start "/"
  now := 0
  loading := true
  own := (({} : Audience).subscribe "view" .note 0).subscribe "eager"
    (.act (some "Settled") (.submit "/" .programmatic)) 1

/-- A click, which is overtaken before its view is loaded; the load is given up and ends all the
same. -/
def overtakenVisit : List Turn :=
  [.step (.submit "/items" .userClick false none), .step .next, .step .next,
    .loaded 0 (.ok (.text "items"))]

theorem views_never_stale_readingPage :
    ∃ i n e₁, told tellAll readingPage.start (overtakenVisit ++ [.loaded 1 (.ok (.text "home"))]) =
        told tellAll readingPage.start overtakenVisit ++ [.viewLoaded i (.text "home")] ∧
      ((told tellAll readingPage.start overtakenVisit).filterMap Event.settled?).getLast? = some i ∧
      take tellAll (life tellAll readingPage.start overtakenVisit)
        (.loaded 1 (.ok (.text "home"))) =
        (tellAll (.viewLoaded i (.text "home")) e₁).markFinished n ∧
      e₁.trail.currentPath = i.path ∧ i.path = "/" := by
  have hturns : ∀ t ∈ overtakenVisit, t.goesOn := by simp [overtakenVisit, Turn.goesOn]
  obtain ⟨hturn, -, -⟩ :=
    views_never_stale tellAll_steadfast ⟨rfl, rfl, rfl, rfl⟩ rfl overtakenVisit hturns
      (e := readingPage)
  obtain ⟨more, htold, hmore⟩ := hturn (.loaded 1 (.ok (.text "home"))) rfl
  have hactual : told tellAll readingPage.start
      (overtakenVisit ++ [.loaded 1 (.ok (.text "home"))]) =
      told tellAll readingPage.start overtakenVisit ++
        [.viewLoaded ⟨"/", .programmatic, false, 2, none⟩ (.text "home")] := rfl
  obtain rfl := List.append_cancel_left (htold.symm.trans hactual)
  obtain ⟨-, hlast, n, e₁, htake, hpath⟩ := hmore _ (List.mem_singleton_self _) rfl
  exact ⟨_, n, e₁, hactual, hlast, htake, hpath, rfl⟩

end Engine

end Waypost.Browser
