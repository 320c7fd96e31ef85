import Mathlib.Tactic.SplitIfs
import Waypost.Browser.Intent

/-!
# The trail as a window on the browser's entries

The trail knows a stretch of the browser's entries, from `offset` on. A click cuts off what lies
ahead and adds an entry; a move of the browser may lead outside of the stretch, which then grows
until it reaches the entry.

* `committed_currentPath`, `committed_marked`, `mem_committed` : what a click leaves;
* `pathAt?` : the path that the trail has for an entry of the browser;
* `moved_before`, `moved_from` : a move to before the stretch, and any other; `moved_span`,
  `moved_place` : the stretch and the position after it;
* `pathAt?_moved_before`, `pathAt?_moved_from`, `pathAt?_moved` : what the trail has for each entry
  then;
* `Moved`, `moved_eq_iff` : these facts describe one trail and one offset, and they are those of the
  move.
-/

namespace Waypost.Browser.Trail

/-! ## Clicks -/

theorem committed_currentPath (t : Trail) (i : Intent) : (t.committed i).currentPath = i.path := by
  unfold Trail.committed
  split_ifs <;> rfl

theorem committed_pending (t : Trail) (p : Option Intent) (i : Intent) :
    Trail.committed { t with pending := p } i = { t.committed i with pending := p } := by
  unfold Trail.committed
  split_ifs <;> rfl

theorem committed_marked {t : Trail} (hknown : t.position < t.stack.length) (i : Intent) :
    (t.committed i).stack[(t.committed i).position]? = some i.path := by
  unfold Trail.committed
  split_ifs with hreplace
  · exact List.getElem?_set_self hknown
  · have hlength : (t.stack.take (t.position + 1)).length = t.position + 1 := by
      rw [List.length_take]
      omega
    dsimp only
    rw [List.getElem?_append_right (by omega), hlength, Nat.sub_self]
    rfl

theorem mem_committed {t : Trail} {i : Intent} {p : String} (h : p ∈ (t.committed i).stack) :
    p ∈ t.stack ∨ p = i.path := by
  unfold Trail.committed at h
  split_ifs at h
  · exact List.mem_or_eq_of_mem_set h
  · rcases List.mem_append.mp h with h | h
    · exact Or.inl (List.mem_of_mem_take h)
    · exact Or.inr (List.mem_singleton.mp h)

/-! ## The path of an entry -/

/-- The path that the trail has for an entry of the browser. -/
def pathAt? (t : Trail) (offset entry : Int) : Option String :=
  if entry < offset then none else t.stack[(entry - offset).toNat]?

variable {t t' : Trail} {offset offset' index entry : Int} {path : String}

theorem pathAt?_before (h : entry < offset) : t.pathAt? offset entry = none :=
  if_pos h

theorem pathAt?_behind (h : offset + t.stack.length ≤ entry) : t.pathAt? offset entry = none := by
  unfold pathAt?
  split_ifs with hbefore
  · rfl
  · exact List.getElem?_eq_none (by omega)

theorem pathAt?_add (t : Trail) (offset : Int) (p : Nat) :
    t.pathAt? offset (offset + p) = t.stack[p]? := by
  have hplace : (offset + p - offset).toNat = p := by omega
  unfold pathAt?
  rw [if_neg (by omega), hplace]

theorem stack_eq_of_pathAt?_eq (h : ∀ k, t.pathAt? offset k = t'.pathAt? offset k) :
    t.stack = t'.stack := by
  apply List.ext_getElem?
  intro p
  have hp := h (offset + p)
  rwa [pathAt?_add, pathAt?_add] at hp

/-! ## Moves -/

/-- A move to before the known entries fills the gap in front of them with its path. -/
theorem moved_before (t : Trail) (path : String) (h : index < offset) :
    t.moved offset index path =
      ({ t with stack := List.replicate (offset - index).toNat path ++ t.stack, position := 0 },
        index) := by
  have hgap : (offset - index).toNat = (offset - index - 1).toNat + 1 := by omega
  have hgap' : (-(index - offset)).toNat = (offset - index - 1).toNat + 1 := by omega
  unfold Trail.moved
  dsimp only
  rw [if_pos (by omega), hgap, hgap']
  rfl

/-- Any other move fills the gap behind them, if there is one, and writes its path over its
entry. -/
theorem moved_from (t : Trail) (path : String) (h : offset ≤ index) :
    t.moved offset index path =
      ({ t with
          stack :=
            (t.stack ++ List.replicate ((index - offset).toNat + 1 - t.stack.length) path).set
              (index - offset).toNat path
          position := (index - offset).toNat }, offset) := by
  unfold Trail.moved
  dsimp only
  rw [if_neg (by omega)]

theorem moved_currentPath (t : Trail) (offset index : Int) (path : String) :
    (t.moved offset index path).1.currentPath = t.currentPath := by
  rcases Int.lt_or_le index offset with h | h
  · rw [moved_before t path h]
  · rw [moved_from t path h]

theorem moved_pending (t : Trail) (p : Option Intent) (offset index : Int) (path : String) :
    Trail.moved { t with pending := p } offset index path =
      ({ (t.moved offset index path).1 with pending := p }, (t.moved offset index path).2) := by
  rcases Int.lt_or_le index offset with h | h
  · rw [moved_before t path h, moved_before _ path h]
  · rw [moved_from t path h, moved_from _ path h]

theorem moved_place (t : Trail) (offset index : Int) (path : String) :
    (t.moved offset index path).2 + (t.moved offset index path).1.position = index := by
  rcases Int.lt_or_le index offset with h | h
  · rw [moved_before t path h]
    simp
  · rw [moved_from t path h]
    dsimp only
    omega

/-- The known entries after a move reach from the lower of their old start and the place of the move
to the higher of their old end and that place. -/
theorem moved_span (t : Trail) (offset index : Int) (path : String) :
    (t.moved offset index path).2 = min offset index ∧
      (t.moved offset index path).2 + (t.moved offset index path).1.stack.length =
        max (offset + t.stack.length) (index + 1) := by
  rcases Int.lt_or_le index offset with h | h
  · rw [moved_before t path h]
    simp only [List.length_append, List.length_replicate]
    omega
  · rw [moved_from t path h]
    simp only [List.length_set, List.length_append, List.length_replicate]
    omega

/-- A move among the known entries changes the one it goes to, and no other. -/
theorem moved_of_known (t : Trail) (offset : Int) (path : String) {p : Nat}
    (hp : p < t.stack.length) :
    t.moved offset (offset + p) path =
      ({ t with stack := t.stack.set p path, position := p }, offset) := by
  have hplace : (offset + p - offset).toNat = p := by omega
  have hgap : p + 1 - t.stack.length = 0 := by omega
  rw [moved_from t path (by omega), hplace, hgap, List.replicate_zero, List.append_nil]

theorem mem_moved {p : String} (h : p ∈ (t.moved offset index path).1.stack) :
    p ∈ t.stack ∨ p = path := by
  rcases Int.lt_or_le index offset with hbefore | hfrom
  · rw [moved_before t path hbefore] at h
    rcases List.mem_append.mp h with h | h
    · exact Or.inr (List.eq_of_mem_replicate h)
    · exact Or.inl h
  · rw [moved_from t path hfrom] at h
    rcases List.mem_or_eq_of_mem_set h with h | h
    · rcases List.mem_append.mp h with h | h
      · exact Or.inl h
      · exact Or.inr (List.eq_of_mem_replicate h)
    · exact Or.inr h

/-- After a move to before the known entries its path stands at all entries in front of them. -/
theorem pathAt?_moved_before (t : Trail) (path : String) {k : Int} (h : index < offset)
    (hk : index ≤ k) :
    (t.moved offset index path).1.pathAt? (t.moved offset index path).2 k =
      if k < offset then some path else t.pathAt? offset k := by
  rw [moved_before t path h]
  unfold pathAt?
  dsimp only
  rw [if_neg (by omega)]
  split_ifs with hgap
  · have hfilled : (k - index).toNat < (List.replicate (offset - index).toNat path).length := by
      rw [List.length_replicate]
      omega
    rw [List.getElem?_append_left hfilled, List.getElem?_replicate_of_lt (by omega)]
  · have hplace : (k - index).toNat - (offset - index).toNat = (k - offset).toNat := by omega
    have hbehind : (List.replicate (offset - index).toNat path).length ≤ (k - index).toNat := by
      rw [List.length_replicate]
      omega
    rw [List.getElem?_append_right hbehind, List.length_replicate, hplace]

/-- After any other move its path stands at its entry, and at all entries between it and the known
ones. -/
theorem pathAt?_moved_from (t : Trail) (path : String) {k : Int} (h : offset ≤ index)
    (hk : offset ≤ k) (hend : k ≤ max (offset + t.stack.length - 1) index) :
    (t.moved offset index path).1.pathAt? (t.moved offset index path).2 k =
      if k = index then some path
      else if k < offset + t.stack.length then t.pathAt? offset k
      else some path := by
  have hfrom : ¬ k < offset := by omega
  rw [moved_from t path h]
  unfold pathAt?
  dsimp only
  rw [if_neg hfrom, if_neg hfrom]
  split_ifs with hindex hknown
  · rw [hindex, List.getElem?_set_self]
    rw [List.length_append, List.length_replicate]
    omega
  · rw [List.getElem?_set_ne (by omega), List.getElem?_append_left (by omega)]
  · rw [List.getElem?_set_ne (by omega), List.getElem?_append_right (by omega),
      List.getElem?_replicate_of_lt (by omega)]

/-- After a move its path stands at its entry; all other known entries keep theirs, and the gap to
them is filled. -/
theorem pathAt?_moved (t : Trail) (offset index : Int) (path : String) (k : Int) :
    (t.moved offset index path).1.pathAt? (t.moved offset index path).2 k =
      if k = index then some path
      else if offset ≤ k ∧ k < offset + t.stack.length then t.pathAt? offset k
      else if min offset index ≤ k ∧ k ≤ max (offset + t.stack.length - 1) index then some path
      else none := by
  obtain ⟨hstart, hend⟩ := moved_span t offset index path
  by_cases hlow : k < (t.moved offset index path).2
  · rw [pathAt?_before hlow, if_neg (by omega), if_neg (by omega), if_neg (by omega)]
  by_cases hhigh : (t.moved offset index path).2 + (t.moved offset index path).1.stack.length ≤ k
  · rw [pathAt?_behind hhigh, if_neg (by omega), if_neg (by omega), if_neg (by omega)]
  have hspan : min offset index ≤ k ∧ k ≤ max (offset + t.stack.length - 1) index := by omega
  rw [if_pos hspan]
  rcases Int.lt_or_le index offset with hbefore | hfrom
  · rw [pathAt?_moved_before t path hbefore (by omega)]
    by_cases hgap : k < offset
    · have hunknown : ¬ (offset ≤ k ∧ k < offset + t.stack.length) := by omega
      rw [if_pos hgap, if_neg hunknown, ite_self]
    · rw [if_neg hgap, if_neg (by omega), if_pos (by omega)]
  · have hlow' : offset ≤ k := by omega
    rw [pathAt?_moved_from t path hfrom hlow' hspan.2]
    simp only [hlow', true_and]

theorem moved_marked (t : Trail) (offset index : Int) (path : String) :
    (t.moved offset index path).1.stack[(t.moved offset index path).1.position]? = some path := by
  have hentry := pathAt?_add (t.moved offset index path).1 (t.moved offset index path).2
    (t.moved offset index path).1.position
  rw [moved_place, pathAt?_moved, if_pos rfl] at hentry
  exact hentry.symm

/-- The trail `t'`, whose first entry is the browser's entry `offset'`, is what a move to an entry
leaves of `t`. -/
structure Moved (t : Trail) (offset index : Int) (path : String) (t' : Trail) (offset' : Int) :
    Prop where
  start : offset' = min offset index
  place : t'.position + offset' = index
  marked : t'.stack[t'.position]? = some path
  /-- What the trail has for the other entries of its stretch stays. -/
  kept : ∀ k, k ≠ index → offset ≤ k → k < offset + t.stack.length →
    t'.pathAt? offset' k = t.pathAt? offset k
  /-- Entries that come into the stretch get the path of the move. -/
  filled : ∀ k, offset' ≤ k → k < offset' + t'.stack.length →
    ¬ (k ≠ index ∧ offset ≤ k ∧ k < offset + t.stack.length) → t'.pathAt? offset' k = some path
  span : offset' + t'.stack.length - 1 = max (offset + t.stack.length - 1) index
  current : t'.currentPath = t.currentPath
  pending : t'.pending = t.pending

theorem moved_moved (t : Trail) (offset index : Int) (path : String) :
    Moved t offset index path (t.moved offset index path).1 (t.moved offset index path).2 := by
  obtain ⟨hstart, hend⟩ := moved_span t offset index path
  have hplace := moved_place t offset index path
  refine ⟨hstart, by omega, moved_marked t offset index path, ?_, ?_, by omega,
    moved_currentPath t offset index path, ?_⟩
  · intro k hindex hlow hhigh
    rw [pathAt?_moved, if_neg hindex, if_pos ⟨hlow, hhigh⟩]
  · intro k hlow hhigh hother
    rw [pathAt?_moved]
    by_cases hindex : k = index
    · rw [if_pos hindex]
    · rw [if_neg hindex, if_neg fun hknown => hother ⟨hindex, hknown⟩, if_pos (by omega)]
  · exact congrArg (fun r => r.1.pending) (moved_pending t t.pending offset index path)

/-- All that has the same start, the same span and the same paths is one trail. -/
theorem Moved.unique {t'' : Trail} {offset'' : Int} (h : Moved t offset index path t' offset')
    (h' : Moved t offset index path t'' offset'') : t' = t'' ∧ offset' = offset'' := by
  have hoffset : offset' = offset'' := h.start.trans h'.start.symm
  subst hoffset
  have hlength : t'.stack.length = t''.stack.length := by
    have hspan := h.span
    have hspan' := h'.span
    omega
  have hposition : t'.position = t''.position := by
    have hplace := h.place
    have hplace' := h'.place
    omega
  have hpaths : ∀ k, t'.pathAt? offset' k = t''.pathAt? offset' k := by
    intro k
    by_cases hlow : k < offset'
    · rw [pathAt?_before hlow, pathAt?_before hlow]
    by_cases hhigh : offset' + t'.stack.length ≤ k
    · rw [pathAt?_behind hhigh, pathAt?_behind (hlength ▸ hhigh)]
    by_cases hother : k ≠ index ∧ offset ≤ k ∧ k < offset + t.stack.length
    · rw [h.kept k hother.1 hother.2.1 hother.2.2, h'.kept k hother.1 hother.2.1 hother.2.2]
    · rw [h.filled k (by omega) (by omega) hother, h'.filled k (by omega) (by omega) hother]
  have hstack := stack_eq_of_pathAt?_eq hpaths
  have hcurrent := h.current.trans h'.current.symm
  have hpending := h.pending.trans h'.pending.symm
  refine ⟨?_, rfl⟩
  obtain ⟨currentPath, stack, position, pending⟩ := t'
  obtain ⟨currentPath', stack', position', pending'⟩ := t''
  cases hcurrent
  cases hstack
  cases hposition
  cases hpending
  rfl

/-- A move keeps every known entry at the browser's index that it had, fills the gap to the entry
that it goes to, and writes nothing else; and no other trail and offset do all of that. -/
theorem moved_eq_iff (t : Trail) (offset index : Int) (path : String) (t' : Trail) (offset' : Int) :
    t.moved offset index path = (t', offset') ↔ Moved t offset index path t' offset' := by
  constructor
  · intro h
    have hmoved := moved_moved t offset index path
    rwa [h] at hmoved
  · intro h
    obtain ⟨htrail, hoffset⟩ := (moved_moved t offset index path).unique h
    rw [← htrail, ← hoffset]

end Waypost.Browser.Trail
