import Mathlib.Data.Set.Card
import Waypost.Lock
import Waypost.Proofs.Keyed

/-!
# Readers and writers exclude one another

Threads use the lock in any number and in any order. A name stands for one use of the lock at a
time: a thread that is inside and asks again takes part under another name.

* `LockMove`, `Lock.move?`, `Lock.run?` : what a thread may do next, and a run of the lock under a
  schedule;
* `Moved` : all that a move can do (`moved_of_move?`). Asking is to arrive as one who is about to
  look, and then to look;
* `Tallied` : the counters of the lock are the numbers of threads in each phase, which every move
  keeps (`Tallied.moved`, `Tallied.run`);
* `run?_excludes` : who may be inside together with whom, in every state of every run.
-/

namespace Waypost

/-! ## Schedules -/

/-- How the block of a thread that is inside ends. -/
inductive BlockEnd where
  | finished
  | raised
deriving DecidableEq, Repr

/-- What a thread does next. Each move runs by itself. -/
inductive LockMove where
  | ask (mode : LockMode)
  /-- Looks again after having been woken. -/
  | retry
  | leave (ending : BlockEnd)
  /-- An exception ends the wait. -/
  | abandon
deriving DecidableEq, Repr

namespace LockPhase

/-- The thread is in its block. -/
def isInside (mode : LockMode) : LockPhase → Bool
  | .inside m => m = mode
  | _ => false

/-- The thread has asked for the lock and has not got it yet. -/
def waitsFor (mode : LockMode) : LockPhase → Bool
  | .inside _ => false
  | .parked m => m = mode
  | .woken m => m = mode

/-- The thread waits, whatever it has asked for. -/
def isWaiting : LockPhase → Bool
  | .inside _ => false
  | _ => true

/-- The phase after everybody has been woken. -/
def wake : LockPhase → LockPhase
  | .parked mode => .woken mode
  | p => p

end LockPhase

namespace Lock

open LockPhase (isInside waitsFor wake)

/-- The lock after a move of a thread, if the thread is where it can make that move. A block is left
in the same way whether it has finished or raised. -/
def move? (l : Lock) (thread : String) : LockMove → Option Lock
  | .ask mode => l.ask thread mode
  | .retry =>
    match l.phase? thread with
    | some (.woken _) => some (l.retry thread)
    | _ => none
  | .leave _ => l.release thread
  | .abandon => l.abandon thread

/-- The lock after the moves of a schedule, each of which has to be possible where it comes. -/
def run? : List (String × LockMove) → Lock → Option Lock
  | [], l => some l
  | (thread, move) :: schedule, l => (l.move? thread move).bind (run? schedule)

/-- A thread has asked for the lock and has not got it yet. -/
def Waits (l : Lock) (thread : String) (mode : LockMode) : Prop :=
  l.phase? thread = some (.parked mode) ∨ l.phase? thread = some (.woken mode)

/-- A thread is in its block. -/
def Inside (l : Lock) (thread : String) (mode : LockMode) : Prop :=
  l.phase? thread = some (.inside mode)

/-! ## What a move does -/

/-- A thread comes and is about to look; a writer counts among those that wait from now on. -/
def arrive (l : Lock) (thread : String) : LockMode → Lock
  | .read => { l with threads := Keyed.put thread (.woken .read) l.threads }
  | .write =>
    { l with
      writersWaiting := l.writersWaiting + 1
      threads := Keyed.put thread (.woken .write) l.threads }

/-- A thread has left, and nobody has been woken yet. -/
def vacate (l : Lock) (thread : String) : LockMode → Lock
  | .read => { l with readers := l.readers - 1, threads := Keyed.erase thread l.threads }
  | .write => { l with writer := false, threads := Keyed.erase thread l.threads }

/-- All that a move of a thread can do. -/
inductive Moved (l : Lock) (thread : String) : LockMove → Lock → Prop where
  | asked (mode : LockMode) (h : l.phase? thread = none) :
      Moved l thread (.ask mode) ((l.arrive thread mode).look thread mode)
  | looked (mode : LockMode) (h : l.phase? thread = some (.woken mode)) :
      Moved l thread .retry (l.look thread mode)
  | leftLast (ending : BlockEnd) (mode : LockMode) (h : l.phase? thread = some (.inside mode))
      (hlast : mode = .read → (l.vacate thread mode).readers = 0) :
      Moved l thread (.leave ending) (l.vacate thread mode).wakeAll
  | leftOthers (ending : BlockEnd) (h : l.phase? thread = some (.inside .read))
      (hothers : (l.vacate thread .read).readers ≠ 0) :
      Moved l thread (.leave ending) (l.vacate thread .read)
  | gaveUp (mode : LockMode) (h : l.Waits thread mode) :
      Moved l thread .abandon (l.withdraw thread mode)

variable {l l' : Lock} {thread : String} {move : LockMove}

theorem look_arrive_read (l : Lock) (thread : String) :
    (l.arrive thread .read).look thread .read = l.look thread .read := by
  have hblocked : (l.arrive thread .read).blocked .read = l.blocked .read := rfl
  unfold look
  rw [hblocked]
  simp only [arrive, enter, Keyed.put_put]

theorem look_arrive_write (l : Lock) (thread : String) :
    (l.arrive thread .write).look thread .write =
      { l with writersWaiting := l.writersWaiting + 1 }.look thread .write := by
  have hblocked : (l.arrive thread .write).blocked .write =
      { l with writersWaiting := l.writersWaiting + 1 }.blocked .write :=
    rfl
  unfold look
  rw [hblocked]
  simp only [arrive, enter, Keyed.put_put]

theorem moved_of_move? (h : l.move? thread move = some l') : Moved l thread move l' := by
  cases move with
  | ask mode =>
    change l.ask thread mode = some l' at h
    unfold ask at h
    split at h
    · cases h
    · next hphase =>
      cases mode with
      | read =>
        obtain rfl := Option.some.inj h
        rw [← look_arrive_read]
        exact .asked .read hphase
      | write =>
        obtain rfl := Option.some.inj h
        rw [← look_arrive_write]
        exact .asked .write hphase
  | retry =>
    unfold move? at h
    dsimp only at h
    split at h
    · next mode hphase =>
      obtain rfl := Option.some.inj h
      rw [show l.retry thread = l.look thread mode by simp [retry, hphase]]
      exact .looked mode hphase
    · cases h
  | leave ending =>
    change l.release thread = some l' at h
    unfold release at h
    split at h
    · next hphase =>
      dsimp only at h
      split_ifs at h with hlast
      · obtain rfl := Option.some.inj h
        exact .leftLast ending .read hphase fun _ => hlast
      · obtain rfl := Option.some.inj h
        exact .leftOthers ending hphase hlast
    · next hphase =>
      obtain rfl := Option.some.inj h
      exact .leftLast ending .write hphase nofun
    · cases h
  | abandon =>
    change l.abandon thread = some l' at h
    unfold abandon at h
    split at h
    · next mode hphase =>
      obtain rfl := Option.some.inj h
      exact .gaveUp mode (Or.inl hphase)
    · next mode hphase =>
      obtain rfl := Option.some.inj h
      exact .gaveUp mode (Or.inr hphase)
    · cases h

/-! ## Phases after a move -/

theorem phase?_arrive_self (l : Lock) (thread : String) (mode : LockMode) :
    (l.arrive thread mode).phase? thread = some (.woken mode) := by
  cases mode <;> exact Keyed.get?_put_self _ _ _

theorem phase?_arrive_of_ne {t : String} (ht : thread ≠ t) (mode : LockMode) :
    (l.arrive thread mode).phase? t = l.phase? t := by
  cases mode <;> exact Keyed.get?_put_of_ne ht _ _

theorem phase?_look_self (l : Lock) (thread : String) (mode : LockMode) :
    (l.look thread mode).phase? thread = some
    (if l.blocked mode then .parked mode else .inside mode) := by
  unfold look
  split_ifs
  · exact Keyed.get?_put_self _ _ _
  · cases mode <;> exact Keyed.get?_put_self _ _ _

theorem phase?_look_of_ne {t : String} (ht : thread ≠ t) (mode : LockMode) :
    (l.look thread mode).phase? t = l.phase? t := by
  unfold look
  split_ifs
  · exact Keyed.get?_put_of_ne ht _ _
  · cases mode <;> exact Keyed.get?_put_of_ne ht _ _

theorem phase?_vacate (l : Lock) (thread t : String) (mode : LockMode) :
    (l.vacate thread mode).phase? t = if thread = t then none else l.phase? t := by
  split_ifs with ht
  · subst ht
    cases mode <;> exact Keyed.get?_erase_self _ _
  · cases mode <;> exact Keyed.get?_erase_of_ne ht _

theorem phase?_withdraw (l : Lock) (thread t : String) (mode : LockMode) :
    (l.withdraw thread mode).phase? t = if thread = t then none else l.phase? t := by
  split_ifs with ht
  · subst ht
    cases mode <;> exact Keyed.get?_erase_self _ _
  · cases mode <;> exact Keyed.get?_erase_of_ne ht _

theorem wakeAll_threads (l : Lock) :
    l.wakeAll.threads = l.threads.map fun t => (t.1, t.2.wake) := by
  refine List.map_congr_left fun t _ => ?_
  obtain ⟨name, p⟩ := t
  cases p <;> rfl

theorem phase?_wakeAll (l : Lock) (t : String) : l.wakeAll.phase? t = (l.phase? t).map wake := by
  rw [phase?, wakeAll_threads]
  exact Keyed.get?_map t wake l.threads

theorem inside_wakeAll {t : String} {mode : LockMode} :
    l.wakeAll.Inside t mode ↔ l.Inside t mode := by
  rw [Inside, Inside, phase?_wakeAll]
  rcases l.phase? t with _ | (m | m | m) <;> simp [wake]

/-! ## The counters -/

/-- The number of threads whose phase has a property. -/
def tally (l : Lock) (f : LockPhase → Bool) : Nat :=
  l.threads.countP fun t => f t.2

/-- Each thread is there once, the counters are the numbers of threads in each phase, and a writer
is alone. -/
structure Tallied (l : Lock) : Prop where
  once : (Keyed.keys l.threads).Nodup
  readers : l.tally (isInside .read) = l.readers
  writer : l.tally (isInside .write) = l.writer.toNat
  waiting : l.tally (waitsFor .write) = l.writersWaiting
  alone : l.writer = true → l.readers = 0

theorem tallied_empty : Tallied {} :=
  ⟨List.nodup_nil, rfl, rfl, rfl, nofun⟩

/-- One thread goes from phase `old` to phase `new` and the counters go with it. -/
theorem Tallied.shift {old new : Option LockPhase} (h : Tallied l)
    (honce : (Keyed.keys l'.threads).Nodup)
    (hshift : ∀ f, l'.tally f + (old.any f).toNat = l.tally f + (new.any f).toNat)
    (hreaders : l'.readers + (old.any (isInside .read)).toNat =
      l.readers + (new.any (isInside .read)).toNat)
    (hwriter : l'.writer.toNat + (old.any (isInside .write)).toNat =
      l.writer.toNat + (new.any (isInside .write)).toNat)
    (hwaiting : l'.writersWaiting + (old.any (waitsFor .write)).toNat =
      l.writersWaiting + (new.any (waitsFor .write)).toNat)
    (halone : l'.writer = true → l'.readers = 0) : Tallied l' := by
  refine ⟨honce, ?_, ?_, ?_, halone⟩
  · have hcount := hshift (isInside .read)
    rw [h.readers] at hcount
    omega
  · have hcount := hshift (isInside .write)
    rw [h.writer] at hcount
    omega
  · have hcount := hshift (waitsFor .write)
    rw [h.waiting] at hcount
    omega

theorem tally_pos {p : LockPhase} {f : LockPhase → Bool} (hphase : l.phase? thread = some p)
    (hf : f p = true) :
    0 < l.tally f :=
  List.countP_pos_iff.mpr ⟨(thread, p), Keyed.mem_of_get? hphase, hf⟩

theorem tally_put (h : Tallied l) (thread : String) (p : LockPhase) (f : LockPhase → Bool) :
    (Keyed.put thread p l.threads).countP (fun t => f t.2) + ((l.phase? thread).any f).toNat =
      l.tally f + ((some p).any f).toNat :=
  Keyed.countP_put h.once thread p f

theorem tally_erase (h : Tallied l) (thread : String) (f : LockPhase → Bool) :
    (Keyed.erase thread l.threads).countP (fun t => f t.2) + ((l.phase? thread).any f).toNat =
      l.tally f + ((none : Option LockPhase).any f).toNat :=
  Keyed.countP_erase h.once thread f

theorem Tallied.arrive (h : Tallied l) (hphase : l.phase? thread = none) (mode : LockMode) :
    Tallied (l.arrive thread mode) := by
  have honce := Keyed.nodup_keys_put h.once thread (.woken mode)
  have hshift := tally_put h thread (.woken mode)
  rw [hphase] at hshift
  cases mode with
  | read => exact h.shift honce hshift rfl rfl rfl h.alone
  | write => exact h.shift honce hshift rfl rfl rfl h.alone

theorem blocked_read_eq_false :
    l.blocked .read = false ↔ l.writer = false ∧ l.writersWaiting = 0 := by
  simp [blocked]

theorem blocked_write_eq_false : l.blocked .write = false ↔ l.writer = false ∧ l.readers = 0 := by
  simp [blocked]

theorem Tallied.look {mode : LockMode} (h : Tallied l)
    (hphase : l.phase? thread = some (.woken mode)) :
    Tallied (l.look thread mode) := by
  unfold Lock.look
  split_ifs with hblocked
  · have honce := Keyed.nodup_keys_put h.once thread (.parked mode)
    have hshift := tally_put h thread (.parked mode)
    rw [hphase] at hshift
    exact h.shift honce hshift rfl rfl rfl h.alone
  · have honce := Keyed.nodup_keys_put h.once thread (.inside mode)
    have hshift := tally_put h thread (.inside mode)
    rw [hphase] at hshift
    rw [Bool.not_eq_true] at hblocked
    cases mode with
    | read =>
      obtain ⟨hwriter, -⟩ := blocked_read_eq_false.mp hblocked
      exact h.shift honce hshift rfl rfl rfl fun hwriter' =>
        absurd (hwriter.symm.trans hwriter') Bool.false_ne_true
    | write =>
      obtain ⟨hwriter, hreaders⟩ := blocked_write_eq_false.mp hblocked
      -- The thread is one of the writers that wait, so their number does not fall below zero.
      have hwaiting : 0 < l.writersWaiting := h.waiting ▸ tally_pos hphase rfl
      refine h.shift honce hshift rfl ?_ (Nat.sub_add_cancel hwaiting) fun _ => hreaders
      rw [hwriter]
      rfl

theorem Tallied.vacate {mode : LockMode} (h : Tallied l)
    (hphase : l.phase? thread = some (.inside mode)) :
    Tallied (l.vacate thread mode) := by
  have honce := Keyed.nodup_keys_erase h.once thread
  have hshift := tally_erase h thread
  rw [hphase] at hshift
  cases mode with
  | read =>
    have hreaders : 0 < l.readers := h.readers ▸ tally_pos hphase rfl
    refine h.shift honce hshift (Nat.sub_add_cancel hreaders) rfl rfl fun hwriter => ?_
    have hnone := h.alone hwriter
    omega
  | write =>
    have hwriter : 0 < l.writer.toNat := h.writer ▸ tally_pos hphase rfl
    refine h.shift honce hshift rfl ?_ rfl nofun
    rw [Nat.le_antisymm l.writer.toNat_le hwriter]
    rfl

theorem Tallied.withdraw {mode : LockMode} (h : Tallied l) (hwaits : l.Waits thread mode) :
    Tallied (l.withdraw thread mode) := by
  have honce := Keyed.nodup_keys_erase h.once thread
  have hshift := tally_erase h thread
  cases mode with
  | read =>
    rcases hwaits with hphase | hphase
    · rw [hphase] at hshift
      exact h.shift honce hshift rfl rfl rfl h.alone
    · rw [hphase] at hshift
      exact h.shift honce hshift rfl rfl rfl h.alone
  | write =>
    rcases hwaits with hphase | hphase
    · have hwaiting : 0 < l.writersWaiting := h.waiting ▸ tally_pos hphase rfl
      rw [hphase] at hshift
      exact h.shift honce hshift rfl rfl (Nat.sub_add_cancel hwaiting) h.alone
    · have hwaiting : 0 < l.writersWaiting := h.waiting ▸ tally_pos hphase rfl
      rw [hphase] at hshift
      exact h.shift honce hshift rfl rfl (Nat.sub_add_cancel hwaiting) h.alone

theorem tally_wakeAll {f : LockPhase → Bool} (hf : ∀ p, f (wake p) = f p) (l : Lock) :
    l.wakeAll.tally f = l.tally f := by
  rw [tally, wakeAll_threads, List.countP_map]
  exact List.countP_congr fun t _ => by rw [Function.comp_apply, hf]

theorem Tallied.wakeAll (h : Tallied l) : Tallied l.wakeAll where
  once := by
    have hkeys : Keyed.keys l.wakeAll.threads = Keyed.keys l.threads := by
      rw [wakeAll_threads, Keyed.keys, List.map_map]
      rfl
    rw [hkeys]
    exact h.once
  readers := (tally_wakeAll (by rintro (m | m | m) <;> rfl) l).trans h.readers
  writer := (tally_wakeAll (by rintro (m | m | m) <;> rfl) l).trans h.writer
  waiting := (tally_wakeAll (by rintro (m | m | m) <;> rfl) l).trans h.waiting
  alone := h.alone

theorem Tallied.moved (h : Tallied l) (hmoved : Moved l thread move l') : Tallied l' := by
  cases hmoved with
  | asked mode hphase => exact (h.arrive hphase mode).look (phase?_arrive_self l thread mode)
  | looked mode hphase => exact h.look hphase
  | leftLast ending mode hphase hlast => exact (h.vacate hphase).wakeAll
  | leftOthers ending hphase hothers => exact h.vacate hphase
  | gaveUp mode hwaits => exact h.withdraw hwaits

theorem Tallied.run {schedule : List (String × LockMove)} (h : Tallied l)
    (hrun : run? schedule l = some l') : Tallied l' := by
  induction schedule generalizing l with
  | nil => exact Option.some.inj hrun ▸ h
  | cons step schedule ih =>
    obtain ⟨next, hmove, hrun⟩ := Option.bind_eq_some_iff.mp hrun
    exact ih (h.moved (moved_of_move? hmove)) hrun

/-! ## Who is inside -/

theorem inside_iff {t : String} {mode : LockMode} :
    l.Inside t mode ↔ ∃ p, l.phase? t = some p ∧ isInside mode p = true := by
  unfold Inside
  constructor
  · intro h
    exact ⟨_, h, by simp [isInside]⟩
  · rintro ⟨p, hp, hinside⟩
    cases p <;> simp_all [isInside]

theorem waits_iff {t : String} {mode : LockMode} :
    l.Waits t mode ↔ ∃ p, l.phase? t = some p ∧ waitsFor mode p = true := by
  unfold Waits
  constructor
  · rintro (h | h)
    · exact ⟨_, h, by simp [waitsFor]⟩
    · exact ⟨_, h, by simp [waitsFor]⟩
  · rintro ⟨p, hp, hwaits⟩
    cases p <;> simp_all [waitsFor]

/-- A tally is the number of threads whose phase has the property. -/
theorem Tallied.encard (h : Tallied l) (f : LockPhase → Bool) :
    {t | ∃ p, l.phase? t = some p ∧ f p = true}.encard = l.tally f := by
  have hset : {t | ∃ p, l.phase? t = some p ∧ f p = true} =
      (((l.threads.filter fun t => f t.2).map Prod.fst).toFinset : Set String) := by
    ext t
    simp only [Set.mem_ofPred_eq, List.coe_toFinset, List.mem_map, List.mem_filter, Prod.exists,
      exists_and_right, exists_eq_right]
    constructor
    · rintro ⟨p, hp, hf⟩
      exact ⟨p, Keyed.mem_of_get? hp, hf⟩
    · rintro ⟨p, hp, hf⟩
      exact ⟨p, Keyed.get?_of_mem h.once hp, hf⟩
  have hnodup : ((l.threads.filter fun t => f t.2).map Prod.fst).Nodup :=
    Keyed.nodup_keys_filter h.once _
  rw [hset, Set.encard_coe_eq_coe_finsetCard, List.toFinset_card_of_nodup hnodup, List.length_map,
    ← List.countP_eq_length_filter]
  rfl

theorem Tallied.encard_inside (h : Tallied l) (mode : LockMode) :
    {t | l.Inside t mode}.encard = l.tally (isInside mode) := by
  simp only [inside_iff]
  exact h.encard _

theorem Tallied.encard_waits (h : Tallied l) (mode : LockMode) :
    {t | l.Waits t mode}.encard = l.tally (waitsFor mode) := by
  simp only [waits_iff]
  exact h.encard _

theorem Tallied.tally_pos_iff (h : Tallied l) {f : LockPhase → Bool} :
    0 < l.tally f ↔ ∃ t p, l.phase? t = some p ∧ f p = true := by
  constructor
  · intro hpos
    obtain ⟨⟨t, p⟩, hmem, hf⟩ := List.countP_pos_iff.mp hpos
    exact ⟨t, p, Keyed.get?_of_mem h.once hmem, hf⟩
  · rintro ⟨t, p, hp, hf⟩
    exact tally_pos hp hf

theorem Tallied.writer_iff (h : Tallied l) : l.writer = true ↔ ∃ t, l.Inside t .write := by
  simp only [inside_iff]
  rw [← h.tally_pos_iff, h.writer]
  cases l.writer <;> simp

theorem Tallied.readers_iff (h : Tallied l) : l.readers ≠ 0 ↔ ∃ t, l.Inside t .read := by
  simp only [inside_iff]
  rw [← h.tally_pos_iff, h.readers, Nat.pos_iff_ne_zero]

theorem Tallied.waiting_iff (h : Tallied l) : l.writersWaiting ≠ 0 ↔ ∃ t, l.Waits t .write := by
  simp only [waits_iff]
  rw [← h.tally_pos_iff, h.waiting, Nat.pos_iff_ne_zero]

/-- A thread comes inside by a look that nothing blocks. -/
theorem inside_look {t : String} {mode mode' : LockMode} (hin : (l.look thread mode).Inside t mode')
    (hout : ¬ l.Inside t mode') :
    t = thread ∧ mode' = mode ∧ l.blocked mode = false := by
  by_cases ht : thread = t
  · subst ht
    rw [Inside, phase?_look_self] at hin
    split_ifs at hin with hblocked
    · cases hin
    · cases hin
      exact ⟨rfl, rfl, Bool.not_eq_true _ ▸ hblocked⟩
  · rw [Inside, phase?_look_of_ne ht] at hin
    exact absurd hin hout

theorem not_inside_arrive {t : String} {mode mode' : LockMode} (h : ¬ l.Inside t mode') :
    ¬ (l.arrive thread mode).Inside t mode' := by
  by_cases ht : thread = t
  · subst ht
    rw [Inside, phase?_arrive_self]
    exact nofun
  · rwa [Inside, phase?_arrive_of_ne ht]

/-- A move that brings a reader inside was made while no writer was inside and none waited. -/
theorem Moved.blocked_of_enters {t : String} (hmoved : Moved l thread move l')
    (hin : l'.Inside t .read) (hout : ¬ l.Inside t .read) : l.blocked .read = false := by
  -- Who leaves or gives up is gone, and all others stand where they stood.
  have habsent : ∀ l₀ : Lock, (l₀.phase? t = if thread = t then none else l.phase? t) →
      ¬ l₀.Inside t .read := by
    intro l₀ hphase
    rw [Inside, hphase]
    split_ifs
    · exact nofun
    · exact hout
  cases hmoved with
  | asked mode hphase =>
    obtain ⟨-, hmode, hblocked⟩ := inside_look hin (not_inside_arrive hout)
    subst hmode
    exact hblocked
  | looked mode hphase =>
    obtain ⟨-, hmode, hblocked⟩ := inside_look hin hout
    subst hmode
    exact hblocked
  | leftLast ending mode hphase hlast =>
    exact absurd (inside_wakeAll.mp hin) (habsent _ (phase?_vacate l thread t mode))
  | leftOthers ending hphase hothers =>
    exact absurd hin (habsent _ (phase?_vacate l thread t .read))
  | gaveUp mode hwaits => exact absurd hin (habsent _ (phase?_withdraw l thread t mode))

/-- In every state of every run, whatever threads take part and however their blocks and waits end:
the counters are the numbers of readers inside and of writers that wait; the writer mark says that
one thread writes, and there are never two; no thread reads while one writes; and no move brings a
reader inside while a writer is inside or waits. -/
theorem run?_excludes {schedule : List (String × LockMove)} {l : Lock}
    (hrun : run? schedule {} = some l) :
    {t | l.Inside t .read}.encard = l.readers ∧
      (l.writer = true ↔ ∃! t, l.Inside t .write) ∧ {t | l.Inside t .write}.encard ≤ 1 ∧
      {t | l.Waits t .write}.encard = l.writersWaiting ∧
      (∀ t t', l.Inside t .write → ¬ l.Inside t' .read) ∧
      ∀ thread move l', l.move? thread move = some l' → ∀ t, l'.Inside t .read →
        ¬ l.Inside t .read → ∀ t', ¬ l.Inside t' .write ∧ ¬ l.Waits t' .write := by
  have h := tallied_empty.run hrun
  have hone : {t | l.Inside t .write}.encard ≤ 1 := by
    rw [h.encard_inside, h.writer]
    exact_mod_cast l.writer.toNat_le
  refine ⟨?_, ?_, hone, ?_, ?_, ?_⟩
  · rw [h.encard_inside, h.readers]
  · rw [h.writer_iff]
    refine ⟨?_, ExistsUnique.exists⟩
    rintro ⟨t, ht⟩
    exact ⟨t, ht, fun t' ht' => Set.encard_le_one_iff.mp hone t' t ht' ht⟩
  · rw [h.encard_waits, h.waiting]
  · intro t t' hwrite hread
    exact h.readers_iff.mpr ⟨t', hread⟩ (h.alone (h.writer_iff.mpr ⟨t, hwrite⟩))
  · intro thread move l' hmove t hin hout t'
    obtain ⟨hwriter, hwaiting⟩ :=
      blocked_read_eq_false.mp ((moved_of_move? hmove).blocked_of_enters hin hout)
    refine ⟨fun ht' => ?_, fun ht' => ?_⟩
    · exact absurd (h.writer_iff.mpr ⟨t', ht'⟩) (by simp [hwriter])
    · exact h.waiting_iff.mpr ⟨t', ht'⟩ hwaiting

/-- Two readers, of whom one fails inside; two writers, of whom one is interrupted while it waits;
and a reader that comes after the writers and looks once in vain. -/
def busySchedule : List (String × LockMove) :=
  [("ann", .ask .read), ("bob", .ask .read), ("cid", .ask .write), ("dot", .ask .read),
    ("eve", .ask .write), ("ann", .leave .raised), ("eve", .abandon), ("bob", .leave .finished),
    ("dot", .retry), ("cid", .retry)]

theorem run?_excludes_busySchedule :
    ∃ l, run? busySchedule {} = some l ∧ l.Inside "cid" .write ∧ l.Waits "dot" .read ∧
      (∀ t, ¬ l.Inside t .read) ∧ (∃! t, l.Inside t .write) ∧
        {t | l.Waits t .write}.encard = 0 := by
  refine ⟨_, rfl, rfl, Or.inl rfl, ?_⟩
  obtain ⟨-, hwriter, -, hwaiting, hapart, -⟩ := @run?_excludes busySchedule _ rfl
  exact ⟨fun t => hapart "cid" t rfl, hwriter.mp rfl, hwaiting⟩

end Lock

end Waypost
