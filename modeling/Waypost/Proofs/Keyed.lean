import Waypost.Keyed
import Mathlib.Data.List.Nodup
import Mathlib.Tactic.SplitIfs

/-!
# Laws of keyed lists

* `put_of_get?_eq_none` : a new key goes to the end;
* `get?_foldl_putNew` : of several members with one key the first counts; `foldl_putNew_of_nodup` :
  if there are no such members, all of them stay;
* `get?_map_filter` : looking a key up among the members of a list that have a property;
* `nodup_keys_put`, `nodup_keys_putNew`, `nodup_keys_filter` : each key stays there once;
* `get?_filter` : with each key there once, filtering by value filters the answer;
* `flatMap_filter_perm` : members shared out by their keys are all there, and once each;
* `perm_put`, `countP_put`, `countP_erase` : what a change at one key does to the number of values
  of a kind.
-/

namespace Waypost.Keyed

variable {κ : Type} {α : Type} [DecidableEq κ]

theorem get?_cons (k k' : κ) (v : α) (m : List (κ × α)) :
    get? k ((k', v) :: m) = if k' = k then some v else get? k m := rfl

theorem get?_eq_none_iff {k : κ} {m : List (κ × α)} : get? k m = none ↔ k ∉ keys m := by
  induction m with
  | nil => simp [keys]
  | cons p m ih =>
    rw [get?_cons]
    by_cases h : p.1 = k
    · simp [h, keys]
    · rw [if_neg h, ih]
      simp [keys, Ne.symm h]

theorem put_of_get?_eq_none {k : κ} {m : List (κ × α)} (h : get? k m = none) (v : α) :
    put k v m = m ++ [(k, v)] := by
  induction m with
  | nil => rfl
  | cons p m ih =>
    rw [get?_cons] at h
    by_cases hp : p.1 = k
    · simp [hp] at h
    · rw [if_neg hp] at h
      simp [put, hp, ih h]

theorem putNew_of_notMem {k : κ} {m : List (κ × α)} (h : k ∉ keys m) (v : α) :
    putNew k v m = m ++ [(k, v)] := by
  have hnone : get? k m = none := get?_eq_none_iff.mpr h
  unfold putNew has
  rw [hnone]
  rfl

theorem get?_append (k : κ) (m m' : List (κ × α)) :
    get? k (m ++ m') = (get? k m).or (get? k m') := by
  induction m with
  | nil => rfl
  | cons p m ih =>
    rw [List.cons_append, get?_cons, get?_cons, ih]
    split_ifs <;> rfl

theorem get?_putNew (k k' : κ) (v : α) (m : List (κ × α)) :
    get? k (putNew k' v m) = (get? k m).or (if k' = k then some v else none) := by
  unfold putNew
  split_ifs with hhas hk hk
  · subst hk
    obtain ⟨v', hv'⟩ := Option.isSome_iff_exists.mp hhas
    rw [hv']
    rfl
  · rw [Option.or_none]
  · rw [get?_append, get?_cons, if_pos hk]
  · rw [get?_append, get?_cons, if_neg hk, get?_nil]

theorem get?_map {β : Type} (k : κ) (f : α → β) (m : List (κ × α)) :
    get? k (m.map fun p => (p.1, f p.2)) = (get? k m).map f := by
  induction m with
  | nil => rfl
  | cons p m ih =>
    rw [List.map_cons, get?_cons, get?_cons, ih]
    split_ifs <;> rfl

theorem mem_put {k : κ} {v : α} {m : List (κ × α)} {p : κ × α} (h : p ∈ put k v m) :
    p = (k, v) ∨ p ∈ m := by
  induction m with
  | nil => exact Or.inl (List.mem_singleton.mp h)
  | cons q m ih =>
    obtain ⟨k', v'⟩ := q
    rw [put] at h
    split_ifs at h with hk
    · rcases List.mem_cons.mp h with rfl | h
      · exact Or.inl (by rw [hk])
      · exact Or.inr (List.mem_cons_of_mem _ h)
    · rcases List.mem_cons.mp h with rfl | h
      · exact Or.inr List.mem_cons_self
      · exact (ih h).imp_right (List.mem_cons_of_mem _)

/-- Of several members with one key the first counts. -/
theorem get?_foldl_putNew (k : κ) (ps m : List (κ × α)) :
    get? k (ps.foldl (fun m p => putNew p.1 p.2 m) m) = (get? k m).or (get? k ps) := by
  induction ps generalizing m with
  | nil => rw [List.foldl_nil, get?_nil, Option.or_none]
  | cons p ps ih =>
    rw [List.foldl_cons, ih, get?_putNew, get?_cons, Option.or_assoc]
    split_ifs <;> rfl

/-- Members that have keys of their own come to stand in order. -/
theorem foldl_putNew_of_nodup {ps m : List (κ × α)} (h : (keys (m ++ ps)).Nodup) :
    ps.foldl (fun m p => putNew p.1 p.2 m) m = m ++ ps := by
  induction ps generalizing m with
  | nil => rw [List.foldl_nil, List.append_nil]
  | cons p ps ih =>
    have hkeys : keys (m ++ p :: ps) = keys m ++ p.1 :: keys ps := by simp [keys]
    have hfresh : p.1 ∉ keys m := by
      intro hmem
      rw [hkeys] at h
      exact (List.nodup_append.mp h).2.2 p.1 hmem p.1 List.mem_cons_self rfl
    have hassoc : m ++ p :: ps = m ++ [p] ++ ps := by rw [List.append_assoc, List.singleton_append]
    rw [List.foldl_cons, putNew_of_notMem hfresh, ih (hassoc ▸ h), hassoc]

theorem mem_keys_foldl_putNew {k : κ} (ps m : List (κ × α)) :
    k ∈ keys (ps.foldl (fun m p => putNew p.1 p.2 m) m) ↔ k ∈ keys m ∨ k ∈ keys ps := by
  have hnone : k ∉ keys (ps.foldl (fun m p => putNew p.1 p.2 m) m) ↔ k ∉ keys m ∧ k ∉ keys ps := by
    rw [← get?_eq_none_iff, ← get?_eq_none_iff, ← get?_eq_none_iff, get?_foldl_putNew,
      Option.or_eq_none_iff]
  rw [← not_iff_not, hnone, not_or]

/-- The first member with a property that has a given key. -/
theorem get?_map_filter {β : Type} (f : β → κ) (p : β → Bool) (k : κ) (l : List β) :
    get? k ((l.filter p).map fun x => (f x, x)) = l.find? fun x => decide (f x = k) && p x := by
  induction l with
  | nil => rfl
  | cons x l ih =>
    by_cases hp : p x
    · by_cases hk : f x = k
      · simp [hp, hk, get?_cons]
      · simp [hp, hk, get?_cons, ih]
    · simp [hp, ih]

theorem erase_of_get?_eq_none {k : κ} {m : List (κ × α)} (h : get? k m = none) : erase k m = m := by
  rw [erase, List.filter_eq_self]
  intro p hp
  simp only [ne_eq, decide_not, Bool.not_eq_eq_eq_not, Bool.not_true, decide_eq_false_iff_not]
  rintro rfl
  exact get?_eq_none_iff.mp h (List.mem_map_of_mem hp)

/-! ## Keys that are there once -/

theorem keys_put (k : κ) (v : α) (m : List (κ × α)) :
    keys (put k v m) = if k ∈ keys m then keys m else keys m ++ [k] := by
  induction m with
  | nil => rfl
  | cons p m ih =>
    obtain ⟨k', v'⟩ := p
    by_cases h : k' = k
    · simp [put, keys, h]
    · have hput : keys (put k v ((k', v') :: m)) = k' :: keys (put k v m) := by simp [put, keys, h]
      have hcons : keys ((k', v') :: m) = k' :: keys m := rfl
      rw [hput, ih, hcons]
      by_cases hmem : k ∈ keys m
      · rw [if_pos hmem, if_pos (List.mem_cons_of_mem k' hmem)]
      · rw [if_neg hmem, if_neg (by simp [Ne.symm h, hmem])]
        rfl

theorem nodup_keys_put {m : List (κ × α)} (h : (keys m).Nodup) (k : κ) (v : α) :
    (keys (put k v m)).Nodup := by
  rw [keys_put]
  split_ifs with hmem
  · exact h
  · rw [List.nodup_append]
    refine ⟨h, List.nodup_singleton k, ?_⟩
    intro k' hk' k'' hk'' heq
    rw [heq, List.mem_singleton.mp hk''] at hk'
    exact hmem hk'

theorem nodup_keys_putNew {m : List (κ × α)} (h : (keys m).Nodup) (k : κ) (v : α) :
    (keys (putNew k v m)).Nodup := by
  by_cases hmem : k ∈ keys m
  · have hhas : has k m = true := by
      rw [has, Option.isSome_iff_ne_none, ne_eq, get?_eq_none_iff]
      exact not_not_intro hmem
    rwa [putNew, if_pos hhas]
  · rw [putNew_of_notMem hmem, ← put_of_get?_eq_none (get?_eq_none_iff.mpr hmem)]
    exact nodup_keys_put h k v

theorem nodup_keys_foldl_putNew (ps : List (κ × α)) {m : List (κ × α)} (h : (keys m).Nodup) :
    (keys (ps.foldl (fun m p => putNew p.1 p.2 m) m)).Nodup := by
  induction ps generalizing m with
  | nil => exact h
  | cons p ps ih => exact ih (nodup_keys_putNew h p.1 p.2)

omit [DecidableEq κ] in
theorem nodup_keys_filter {m : List (κ × α)} (h : (keys m).Nodup) (p : κ × α → Bool) :
    (keys (m.filter p)).Nodup :=
  h.sublist (List.filter_sublist.map Prod.fst)

theorem get?_of_mem {k : κ} {v : α} {m : List (κ × α)} (hnodup : (keys m).Nodup) (h : (k, v) ∈ m) :
    get? k m = some v := by
  induction m with
  | nil => cases h
  | cons p m ih =>
    obtain ⟨hfresh, hrest⟩ := List.nodup_cons.mp hnodup
    rw [get?_cons]
    rcases List.mem_cons.mp h with rfl | h
    · rw [if_pos rfl]
    · have hother : p.1 ≠ k := by
        rintro rfl
        exact hfresh (List.mem_map.mpr ⟨_, h, rfl⟩)
      rw [if_neg hother, ih hrest h]

theorem get?_filter {m : List (κ × α)} (h : (keys m).Nodup) (f : α → Bool) (k : κ) :
    get? k (m.filter fun p => f p.2) = (get? k m).filter f := by
  induction m with
  | nil => rfl
  | cons p m ih =>
    obtain ⟨k', v⟩ := p
    obtain ⟨hfresh, hrest⟩ := List.nodup_cons.mp h
    rw [get?_cons]
    by_cases hk : k' = k
    · subst hk
      rw [if_pos rfl]
      cases hf : f v with
      | true => simp [hf, get?_cons, Option.filter]
      | false =>
        -- The key stands nowhere else.
        have hnone : get? k' m = none := get?_eq_none_iff.mpr hfresh
        simp [hf, ih hrest, hnone, Option.filter]
    · rw [if_neg hk, ← ih hrest]
      cases hf : f v with
      | true => simp [hf, get?_cons, hk]
      | false => simp [hf]

/-! ## Sharing out by key -/

/-- Members shared out by distinct keys, among which are all of theirs, are the members in another
order. -/
theorem flatMap_filter_perm {β : Type} (f : β → κ) {ks : List κ} (hks : ks.Nodup) {l : List β}
    (hl : ∀ x ∈ l, f x ∈ ks) :
    (ks.flatMap fun k => l.filter fun x => f x = k).Perm l := by
  induction ks generalizing l with
  | nil =>
    obtain rfl : l = [] := List.eq_nil_iff_forall_not_mem.mpr fun x hx => List.not_mem_nil (hl x hx)
    exact List.Perm.refl []
  | cons k ks ih =>
    obtain ⟨hfresh, hks⟩ := List.nodup_cons.mp hks
    -- The other keys share out what the first one leaves.
    have hrest : ∀ k' ∈ ks, (l.filter fun x => f x = k') =
        (l.filter fun x => !decide (f x = k)).filter fun x => f x = k' := by
      intro k' hk'
      rw [List.filter_filter]
      refine List.filter_congr fun x _ => ?_
      by_cases hx : f x = k'
      · have hother : f x ≠ k := by
          rintro rfl
          exact hfresh (hx ▸ hk')
        simp [hx, hx ▸ hother]
      · simp [hx]
    have hcovered : ∀ x ∈ l.filter (fun x => !decide (f x = k)), f x ∈ ks := by
      intro x hx
      obtain ⟨hmem, hother⟩ := List.mem_filter.mp hx
      simp only [Bool.not_eq_eq_eq_not, Bool.not_true, decide_eq_false_iff_not] at hother
      exact (List.mem_cons.mp (hl x hmem)).resolve_left hother
    rw [List.flatMap_cons, List.flatMap_congr hrest]
    exact ((ih hks hcovered).append_left _).trans (List.filter_append_perm _ l)

/-! ## Counting values

With each key there once, `put` and `erase` change the list at one key, up to its order. -/

theorem mem_of_get? {k : κ} {v : α} {m : List (κ × α)} (h : get? k m = some v) : (k, v) ∈ m := by
  induction m with
  | nil => cases h
  | cons p m ih =>
    obtain ⟨k', v'⟩ := p
    rw [get?_cons] at h
    split_ifs at h with hk
    · rw [← hk, ← Option.some.inj h]
      exact List.mem_cons_self
    · exact List.mem_cons_of_mem _ (ih h)

theorem nodup_keys_erase {m : List (κ × α)} (h : (keys m).Nodup) (k : κ) :
    (keys (erase k m)).Nodup :=
  nodup_keys_filter h _

theorem put_put (k : κ) (v w : α) (m : List (κ × α)) : put k v (put k w m) = put k v m := by
  induction m with
  | nil => simp [put]
  | cons p m ih =>
    by_cases hk : p.1 = k
    · simp [put, hk]
    · simp [put, hk, ih]

theorem erase_put (k : κ) (v : α) (m : List (κ × α)) : erase k (put k v m) = erase k m := by
  induction m with
  | nil => simp [put, erase]
  | cons p m ih =>
    by_cases hk : p.1 = k
    · simp [put, erase, hk]
    · simpa [put, erase, hk] using ih

theorem perm_cons_erase {k : κ} {v : α} {m : List (κ × α)} (hnodup : (keys m).Nodup)
    (h : get? k m = some v) :
    m.Perm ((k, v) :: erase k m) := by
  induction m with
  | nil => cases h
  | cons p m ih =>
    obtain ⟨k', v'⟩ := p
    obtain ⟨hfresh, hrest⟩ := List.nodup_cons.mp hnodup
    rw [get?_cons] at h
    split_ifs at h with hk
    · subst hk
      have hsame : erase k' ((k', v') :: m) = erase k' m := by simp [erase]
      rw [hsame, erase_of_get?_eq_none (get?_eq_none_iff.mpr hfresh), Option.some.inj h]
    · have hother : erase k ((k', v') :: m) = (k', v') :: erase k m := by simp [erase, hk]
      rw [hother]
      exact ((ih hrest h).cons (k', v')).trans (List.Perm.swap _ _ _)

theorem perm_put {m : List (κ × α)} (h : (keys m).Nodup) (k : κ) (v : α) :
    (put k v m).Perm ((k, v) :: erase k m) := by
  have hperm := perm_cons_erase (nodup_keys_put h k v) (get?_put_self k v m)
  rwa [erase_put] at hperm

/-- Erasing a key takes its value out of every count. -/
theorem countP_erase {m : List (κ × α)} (h : (keys m).Nodup) (k : κ) (f : α → Bool) :
    (erase k m).countP (fun p => f p.2) + ((get? k m).any f).toNat = m.countP fun p => f p.2 := by
  cases hk : get? k m with
  | none => simp [erase_of_get?_eq_none hk]
  | some v =>
    rw [(perm_cons_erase h hk).countP_eq, List.countP_cons]
    cases hf : f v <;> simp [hf]

/-- A value that is put takes the place of the one before it in every count. -/
theorem countP_put {m : List (κ × α)} (h : (keys m).Nodup) (k : κ) (v : α) (f : α → Bool) :
    (put k v m).countP (fun p => f p.2) + ((get? k m).any f).toNat = m.countP
    (fun p => f p.2) + (f v).toNat := by
  have hvalue : (if f v = true then 1 else 0) = (f v).toNat := by cases f v <;> rfl
  rw [(perm_put h k v).countP_eq, List.countP_cons, ← countP_erase h k f, hvalue]
  omega

end Waypost.Keyed
