import Waypost.Proofs.Lock.Exclusion

/-!
# No wake-up is lost

Who leaves the lock wakes the parked threads only if nobody is inside any more, and a writer that
comes inside wakes no one although one writer fewer waits from then on. That is enough.

* `Attended` : a thread that is parked has a reason to wait, which every move keeps unless a wait is
  broken off (`Attended.moved`, `Attended.run`);
* `exists_unblocked` : if nobody is inside, one of those that wait has been woken and is not
  blocked;
* `exists_run_empty` : from every state on, the lock can be used until nobody needs it any more;
* `run?_wakes` : the whole. It fails where a writer is interrupted while it waits, as the example
  after it shows.
-/

namespace Waypost.Lock

open LockPhase (isWaiting wake)

variable {l l' : Lock} {thread : String} {move : LockMove}

/-! ## Parked threads have a reason to wait -/

/-- Every parked thread would have to wait if it looked now. -/
def Attended (l : Lock) : Prop :=
  ∀ t mode, l.phase? t = some (.parked mode) → l.blocked mode = true

theorem attended_empty : Attended {} := nofun

theorem blocked_arrive {mode : LockMode} (h : l.blocked mode = true) (mode' : LockMode) :
    (l.arrive thread mode').blocked mode = true := by
  cases mode' with
  | read => cases mode <;> exact h
  | write =>
    cases mode with
    | read => simp [blocked, arrive]
    | write => exact h

/-- A thread that comes inside gives no other a reason to stop waiting. -/
theorem blocked_look {mode : LockMode} (h : l.blocked mode = true) (mode' : LockMode) :
    (l.look thread mode').blocked mode = true := by
  unfold look
  split_ifs
  · cases mode <;> exact h
  · cases mode' with
    | read =>
      cases mode with
      | read => exact h
      | write => simp [blocked, enter]
    | write => cases mode <;> simp [blocked, enter]

theorem Attended.arrive (h : Attended l) (mode : LockMode) : Attended (l.arrive thread mode) := by
  intro t mode' hphase
  by_cases ht : thread = t
  · subst ht
    rw [phase?_arrive_self] at hphase
    cases hphase
  · rw [phase?_arrive_of_ne ht] at hphase
    exact blocked_arrive (h t mode' hphase) mode

theorem Attended.look (h : Attended l) (mode : LockMode) : Attended (l.look thread mode) := by
  intro t mode' hphase
  by_cases ht : thread = t
  · subst ht
    rw [phase?_look_self] at hphase
    split_ifs at hphase with hblocked
    · cases hphase
      exact blocked_look hblocked mode
    · cases hphase
  · rw [phase?_look_of_ne ht] at hphase
    exact blocked_look (h t mode' hphase) mode

theorem attended_wakeAll (l : Lock) : Attended l.wakeAll := by
  intro t mode hphase
  rw [phase?_wakeAll] at hphase
  obtain ⟨p, -, hp⟩ := Option.map_eq_some_iff.mp hphase
  cases p <;> cases hp

/-- A reader that leaves others behind leaves the writers their reason to wait. -/
theorem Attended.vacate_read (h : Attended l) (hothers : (l.vacate thread .read).readers ≠ 0) :
    Attended (l.vacate thread .read) := by
  intro t mode hphase
  rw [phase?_vacate] at hphase
  split_ifs at hphase
  have hblocked := h t mode hphase
  cases mode with
  | read => exact hblocked
  | write => simp [blocked, hothers]

theorem Attended.moved (h : Attended l) (hmoved : Moved l thread move l')
    (hmove : move ≠ .abandon) : Attended l' := by
  cases hmoved with
  | asked mode hphase => exact (h.arrive mode).look mode
  | looked mode hphase => exact h.look mode
  | leftLast ending mode hphase hlast => exact attended_wakeAll _
  | leftOthers ending hphase hothers => exact h.vacate_read hothers
  | gaveUp mode hwaits => exact absurd rfl hmove

theorem Attended.run {schedule : List (String × LockMove)} (h : Attended l)
    (hschedule : ∀ s ∈ schedule, s.2 ≠ .abandon) (hrun : run? schedule l = some l') :
    Attended l' := by
  induction schedule generalizing l with
  | nil => exact Option.some.inj hrun ▸ h
  | cons step schedule ih =>
    obtain ⟨hstep, hschedule⟩ := List.forall_mem_cons.mp hschedule
    obtain ⟨next, hmove, hrun⟩ := Option.bind_eq_some_iff.mp hrun
    exact ih (h.moved (moved_of_move? hmove) hstep) hschedule hrun

/-! ## Somebody can go on -/

/-- What blocks a reader is a writer that is inside or waits; what blocks a writer is anybody
inside. -/
theorem Tallied.blocked_read_iff (h : Tallied l) :
    l.blocked .read = true ↔ ∃ t, l.Inside t .write ∨ l.Waits t .write := by
  rw [exists_or, ← h.writer_iff, ← h.waiting_iff]
  simp [blocked]

theorem Tallied.blocked_write_iff (h : Tallied l) :
    l.blocked .write = true ↔ ∃ t mode, l.Inside t mode := by
  have hsplit : (∃ t mode, l.Inside t mode) ↔ (∃ t, l.Inside t .write) ∨ ∃ t, l.Inside t .read := by
    constructor
    · rintro ⟨t, mode, ht⟩
      cases mode with
      | read => exact Or.inr ⟨t, ht⟩
      | write => exact Or.inl ⟨t, ht⟩
    · rintro (⟨t, ht⟩ | ⟨t, ht⟩)
      · exact ⟨t, _, ht⟩
      · exact ⟨t, _, ht⟩
  rw [hsplit, ← h.writer_iff, ← h.readers_iff]
  simp [blocked]

theorem exists_unblocked (h : Tallied l) (hattended : Attended l)
    (hnobody : ∀ t mode, ¬ l.Inside t mode) {t : String} {mode : LockMode}
    (hwaits : l.Waits t mode) :
    ∃ t mode, l.phase? t = some (.woken mode) ∧ l.blocked mode = false := by
  have hwrite : l.blocked .write = false := by
    rw [← Bool.not_eq_true, h.blocked_write_iff]
    rintro ⟨t, mode, ht⟩
    exact hnobody t mode ht
  -- A thread that is not blocked has been woken.
  have hwoken : ∀ {t mode}, l.Waits t mode → l.blocked mode = false →
      l.phase? t = some (.woken mode) := by
    rintro t mode (hparked | hwoken) hfree
    · exact absurd (hattended t mode hparked) (by simp [hfree])
    · exact hwoken
  by_cases hwriter : ∃ t, l.Waits t .write
  · obtain ⟨t, ht⟩ := hwriter
    exact ⟨t, .write, hwoken ht hwrite, hwrite⟩
  · have hread : l.blocked .read = false := by
      rw [← Bool.not_eq_true, h.blocked_read_iff]
      rintro ⟨t, ht | ht⟩
      · exact hnobody t .write ht
      · exact hwriter ⟨t, ht⟩
    cases mode with
    | read => exact ⟨t, .read, hwoken hwaits hread, hread⟩
    | write => exact absurd ⟨t, hwaits⟩ hwriter

theorem move?_retry {mode : LockMode} (h : l.phase? thread = some (.woken mode)) :
    l.move? thread .retry = some (l.look thread mode) := by
  simp [move?, retry, h]

/-! ## The lock runs down -/

/-- The number of moves after which nobody uses the lock any more: one for a thread that is inside,
and two for one that waits. -/
def backlog (l : Lock) : Nat :=
  l.tally (fun _ => true) + l.tally isWaiting

theorem backlog_look {mode : LockMode} (h : Tallied l)
    (hphase : l.phase? thread = some (.woken mode)) (hfree : l.blocked mode = false) :
    (l.look thread mode).backlog + 1 = l.backlog := by
  have hthreads : (l.look thread mode).threads = Keyed.put thread (.inside mode) l.threads := by
    unfold look
    rw [hfree]
    cases mode <;> rfl
  have hput := tally_put h thread (.inside mode)
  rw [hphase, ← hthreads] at hput
  have hall : (l.look thread mode).tally (fun _ => true) + 1 = l.tally (fun _ => true) + 1 :=
    hput fun _ => true
  have hout : (l.look thread mode).tally isWaiting + 1 = l.tally isWaiting + 0 := hput isWaiting
  unfold backlog
  omega

theorem backlog_vacate {mode : LockMode} (h : Tallied l)
    (hphase : l.phase? thread = some (.inside mode)) :
    (l.vacate thread mode).backlog + 1 = l.backlog := by
  have hthreads : (l.vacate thread mode).threads = Keyed.erase thread l.threads := by
    cases mode <;> rfl
  have herase := tally_erase h thread
  rw [hphase, ← hthreads] at herase
  have hall : (l.vacate thread mode).tally (fun _ => true) + 1 = l.tally (fun _ => true) + 0 :=
    herase fun _ => true
  have hout : (l.vacate thread mode).tally isWaiting + 0 = l.tally isWaiting + 0 := herase isWaiting
  unfold backlog
  omega

theorem backlog_wakeAll (l : Lock) : l.wakeAll.backlog = l.backlog := by
  have hwake : ∀ p, isWaiting (wake p) = isWaiting p := by rintro (m | m | m) <;> rfl
  rw [backlog, tally_wakeAll (fun _ => rfl), tally_wakeAll hwake]
  rfl

theorem Moved.backlog_leave {ending : BlockEnd} (hmoved : Moved l thread (.leave ending) l')
    (h : Tallied l) : l'.backlog + 1 = l.backlog := by
  cases hmoved with
  | leftLast ending mode hphase hlast => rw [backlog_wakeAll, backlog_vacate h hphase]
  | leftOthers ending hphase hothers => exact backlog_vacate h hphase

theorem exists_leave {mode : LockMode} (h : l.Inside thread mode) (ending : BlockEnd) :
    ∃ l', l.move? thread (.leave ending) = some l' := by
  unfold Inside at h
  cases mode with
  | read => exact ⟨_, by rw [move?, release, h]⟩
  | write => exact ⟨_, by rw [move?, release, h]⟩

/-- The threads that use the lock can go on until nobody does. -/
theorem exists_run_empty (h : Tallied l) (hattended : Attended l) :
    ∃ rest l', (∀ s ∈ rest, s.2 = .retry ∨ s.2 = .leave .finished) ∧ run? rest l = some l' ∧
      ∀ t, l'.phase? t = none := by
  induction hn : l.backlog using Nat.strong_induction_on generalizing l with
  | _ n ih =>
    -- A move of this kind leaves fewer moves to be made.
    have hstep : ∀ {thread move next}, (move = .retry ∨ move = .leave .finished) →
        l.move? thread move = some next → next.backlog + 1 = l.backlog →
        ∃ rest l', (∀ s ∈ rest, s.2 = .retry ∨ s.2 = .leave .finished) ∧ run? rest l = some l' ∧
          ∀ t, l'.phase? t = none := by
      intro thread move next hkind hmove hbacklog
      have hmoved := moved_of_move? hmove
      have hnext : Attended next :=
        hattended.moved hmoved (by rcases hkind with rfl | rfl <;> exact nofun)
      obtain ⟨rest, l', hrest, hrun, hempty⟩ :=
        ih next.backlog (by omega) (h.moved hmoved) hnext rfl
      refine ⟨(thread, move) :: rest, l', List.forall_mem_cons.mpr ⟨hkind, hrest⟩, ?_, hempty⟩
      rw [run?, hmove]
      exact hrun
    by_cases hinside : ∃ t mode, l.Inside t mode
    · obtain ⟨t, mode, ht⟩ := hinside
      obtain ⟨next, hmove⟩ := exists_leave ht .finished
      exact hstep (Or.inr rfl) hmove ((moved_of_move? hmove).backlog_leave h)
    · by_cases hwaits : ∃ t mode, l.Waits t mode
      · obtain ⟨t, mode, ht⟩ := hwaits
        have hnobody : ∀ t mode, ¬ l.Inside t mode := fun t mode ht => hinside ⟨t, mode, ht⟩
        obtain ⟨t, mode, hwoken, hfree⟩ := exists_unblocked h hattended hnobody ht
        exact hstep (Or.inl rfl) (move?_retry hwoken) (backlog_look h hwoken hfree)
      · refine ⟨[], l, by simp, rfl, fun t => ?_⟩
        cases hphase : l.phase? t with
        | none => rfl
        | some p =>
          cases p with
          | inside mode => exact absurd ⟨t, mode, hphase⟩ hinside
          | parked mode => exact absurd ⟨t, mode, Or.inl hphase⟩ hwaits
          | woken mode => exact absurd ⟨t, mode, Or.inr hphase⟩ hwaits

/-- In every state of every run in which waits end by being woken: a parked thread has a reason to
wait, for a reader a writer that is inside or waits, and for a writer a thread that is inside; if
threads wait and nobody is inside, the next look of one of them brings it inside; and the threads
can go on until nobody uses the lock. -/
theorem run?_wakes {schedule : List (String × LockMove)} {l : Lock}
    (hrun : run? schedule {} = some l) (hschedule : ∀ s ∈ schedule, s.2 ≠ .abandon) :
    (∀ t mode, l.phase? t = some (.parked mode) → l.blocked mode = true) ∧
      (∀ t, l.phase? t = some (.parked .read) → ∃ t', l.Inside t' .write ∨ l.Waits t' .write) ∧
      (∀ t, l.phase? t = some (.parked .write) → ∃ t' mode, l.Inside t' mode) ∧
      ((∃ t mode, l.Waits t mode) → (∀ t mode, ¬ l.Inside t mode) →
        ∃ t mode l', l.Waits t mode ∧ l.move? t .retry = some l' ∧ l'.Inside t mode) ∧
      ∃ rest l', (∀ s ∈ rest, s.2 = .retry ∨ s.2 = .leave .finished) ∧ run? rest l = some l' ∧
        ∀ t, l'.phase? t = none := by
  have h := tallied_empty.run hrun
  have hattended := attended_empty.run hschedule hrun
  refine ⟨hattended, ?_, ?_, ?_, exists_run_empty h hattended⟩
  · intro t hparked
    exact h.blocked_read_iff.mp (hattended t .read hparked)
  · intro t hparked
    exact h.blocked_write_iff.mp (hattended t .write hparked)
  · rintro ⟨t, mode, hwaits⟩ hnobody
    obtain ⟨t, mode, hwoken, hfree⟩ := exists_unblocked h hattended hnobody hwaits
    refine ⟨t, mode, _, Or.inr hwoken, move?_retry hwoken, ?_⟩
    rw [Inside, phase?_look_self, hfree]
    rfl

/-- A reader leaves while a writer and another reader wait; the reader looks first and gives way to
the writer. -/
def vacantSchedule : List (String × LockMove) :=
  [("ann", .ask .read), ("cid", .ask .write), ("dot", .ask .read), ("ann", .leave .raised),
    ("dot", .retry)]

/-- The lock after `vacantSchedule`: nobody is inside, and the reader has been parked again. -/
def vacantLock : Lock where
  writersWaiting := 1
  threads := [("cid", .woken .write), ("dot", .parked .read)]

theorem run?_wakes_vacantLock :
    run? vacantSchedule {} = some vacantLock ∧
      (∃ t, vacantLock.Inside t .write ∨ vacantLock.Waits t .write) ∧
      ∃ t mode l', vacantLock.Waits t mode ∧ vacantLock.move? t .retry = some l' ∧
        l'.Inside t mode := by
  have hrun : run? vacantSchedule {} = some vacantLock := rfl
  have hnobody : ∀ t mode, ¬ vacantLock.Inside t mode := by
    intro t mode ht
    simpa [vacantLock] using Keyed.mem_of_get? ht
  obtain ⟨-, hparked, -, hacquires, -⟩ := run?_wakes hrun (by decide)
  exact ⟨hrun, hparked "dot" rfl, hacquires ⟨"dot", .read, Or.inl rfl⟩ hnobody⟩

/-- A writer that is interrupted after it has been woken leaves a reader behind that nobody
wakes. -/
example :
    ∃ l, run? [("ann", .ask .read), ("cid", .ask .write), ("ann", .leave .finished),
      ("dot", .ask .read), ("cid", .abandon)] {} =
      some l ∧ l.phase? "dot" = some (.parked .read) ∧ l.blocked .read = false :=
  ⟨_, rfl, rfl, rfl⟩

end Waypost.Lock
