import Waypost.Proofs.Keyed
import Waypost.Route.Table

/-!
# What a registered table holds

* `Call`, `Table.perform`, `Reachable` : the tables that registrations lead to, whether they are
  accepted or rejected;
* `TailLast` : a parsed pattern has a tail nowhere but at its end (`Pattern.IsParsed.tailLast`);
* `Node.placeAt` : the place of a shape in the trie, which an insertion changes at its own shape
  only (`placeAt_insert`);
* `Indexed t` : the trie of `t` is an index of its entries: at each shape stand the entries of that
  shape, by method and in the order of registration. `Indexed.perform` and `Reachable.indexed` say
  that every reachable table is indexed.
-/

namespace Waypost.Route

/-! ## Calls -/

/-- A pattern that has been read from a text. -/
def Pattern.IsParsed (p : Pattern) : Prop :=
  ∃ path, Pattern.parse path = .ok p

/-- A call that may change a table. -/
inductive Call where
  | add (method path handlerId : String) (level : Access.Level) (label : Option String)
  | register (e : Entry)
  | registerAll (es : List Entry)
  | freeze

/-- The entries that a call brings with it have parsed patterns. -/
def Call.IsParsed : Call → Prop
  | .register e => e.pattern.IsParsed
  | .registerAll es => ∀ e ∈ es, e.pattern.IsParsed
  | _ => True

namespace Table

/-- The table after an attempt to register entries: a rejected one leaves it as it is. -/
def attempt (t : Table) (es : List Entry) : Table :=
  match t.registerAll es with
  | .error _ => t
  | .ok t' => t'

/-- The table after a call. -/
def perform (t : Table) : Call → Table
  | .add method path handlerId level label =>
    match parseEntry method path handlerId level label with
    | .error _ => t
    | .ok e => t.attempt [e]
  | .register e => t.attempt [e]
  | .registerAll es => t.attempt es
  | .freeze => t.freeze

end Table

/-- A table that calls have made out of an empty one. -/
def Reachable (t : Table) : Prop :=
  ∃ calls : List Call, (∀ c ∈ calls, c.IsParsed) ∧ calls.foldl Table.perform .empty = t

/-! ## Shapes of parsed patterns -/

/-- A tail stands nowhere but at the end of the shape. -/
def TailLast : List SegmentShape → Prop
  | [] => True
  | .tail :: rest => rest = []
  | .literal _ :: rest => TailLast rest
  | .parameter :: rest => TailLast rest

/-- A part that others follow is no tail. -/
theorem parsePart_ne_tail {seen : List String} {part : String} {seg : Segment}
    (h : parsePart seen false part = .ok seg) : seg.shape ≠ .tail := by
  unfold parsePart at h
  split at h
  · simp at h
  · dsimp only at h
    split_ifs at h with _ _ _ _ _ hlast
    · cases h
      simp [Segment.shape]
    · exact absurd hlast (by simp)
    · cases h
      simp [Segment.shape]

theorem tailLast_cons {a : SegmentShape} {s : List SegmentShape} (ha : a = .tail → s = [])
    (hs : TailLast s) :
    TailLast (a :: s) := by
  cases a with
  | literal v => exact hs
  | parameter => exact hs
  | tail => exact ha rfl

theorem tailLast_of_parseParts {seen parts : List String} {segs : List Segment}
    (h : parseParts seen parts = .ok segs) : TailLast (segs.map Segment.shape) := by
  induction parts generalizing seen segs with
  | nil =>
    cases h
    trivial
  | cons part rest ih =>
    unfold parseParts at h
    split at h
    · cases h
    · next seg hseg =>
      split at h
      · cases h
      · next segs' hrest =>
        cases h
        refine tailLast_cons ?_ (ih hrest)
        intro htail
        cases rest with
        | nil =>
          cases hrest
          rfl
        | cons next rest => exact absurd htail (parsePart_ne_tail hseg)

theorem Pattern.IsParsed.tailLast {p : Pattern} (h : p.IsParsed) : TailLast p.shape := by
  obtain ⟨path, h⟩ := h
  unfold Pattern.parse at h
  split at h
  · cases h
  · split at h
    · cases h
    · next segs hsegs =>
      cases h
      exact tailLast_of_parseParts hsegs

/-! ## Places of the trie -/

namespace Node

/-- The place at which patterns of a shape end. -/
def placeAt : List SegmentShape → Node → Place
  | [], n => n.ends
  | .tail :: _, n => n.tails
  | .parameter :: s, n =>
    match n.parameter with
    | none => []
    | some c => placeAt s c
  | .literal v :: s, n =>
    match Keyed.get? v n.literals with
    | none => []
    | some c => placeAt s c

theorem find_eq_placeAt (segs : List Segment) (n : Node) :
    find segs n = placeAt (segs.map Segment.shape) n := by
  induction segs generalizing n with
  | nil => rfl
  | cons seg segs ih =>
    cases seg with
    | literal v =>
      cases h : Keyed.get? v n.literals with
      | none => simp [find, Segment.shape, placeAt, h]
      | some c => simpa [find, Segment.shape, placeAt, h] using ih c
    | parameter name =>
      cases h : n.parameter with
      | none => simp [find, Segment.shape, placeAt, h]
      | some c => simpa [find, Segment.shape, placeAt, h] using ih c
    | tail name => rfl

theorem placeAt_empty (s : List SegmentShape) : placeAt s empty = [] := by
  cases s with
  | nil => rfl
  | cons a s => cases a <;> rfl

/-- A child that is missing holds what an empty node holds. -/
theorem placeAt_getD (s : List SegmentShape) (c : Option Node) :
    placeAt s (c.getD empty) = (match c with | none => [] | some c => placeAt s c) := by
  cases c with
  | none => exact placeAt_empty s
  | some c => rfl

/-- An insertion changes the place of its own shape and no other. -/
theorem placeAt_insert (e : Entry) {segs : List Segment} {s : List SegmentShape} (n : Node)
    (hsegs : TailLast (segs.map Segment.shape)) (hs : TailLast s) :
    placeAt s (insert e segs n) =
      if segs.map Segment.shape = s then Keyed.put e.method e (placeAt s n) else placeAt s n := by
  induction segs generalizing s n with
  | nil =>
    cases s with
    | nil => rfl
    | cons a s => cases a <;> rfl
  | cons seg segs ih =>
    cases seg with
    | tail name =>
      have hnil : segs.map Segment.shape = [] := hsegs
      cases s with
      | nil => rfl
      | cons a s =>
        cases a with
        | literal v => rfl
        | parameter => rfl
        | tail =>
          have : s = [] := hs
          simp [insert, placeAt, Segment.shape, hnil, this]
    | parameter name =>
      cases s with
      | nil => rfl
      | cons a s =>
        cases a with
        | literal v => rfl
        | tail => rfl
        | parameter =>
          have := ih (s := s) (n.parameter.getD empty) hsegs hs
          rw [placeAt_getD] at this
          simpa [insert, placeAt, Segment.shape] using this
    | literal w =>
      cases s with
      | nil => rfl
      | cons a s =>
        cases a with
        | parameter => rfl
        | tail => rfl
        | literal v =>
          by_cases hv : w = v
          · subst hv
            have := ih (s := s) ((Keyed.get? w n.literals).getD empty) hsegs hs
            rw [placeAt_getD] at this
            simpa [insert, placeAt, Segment.shape, Keyed.get?_put_self] using this
          · simp [insert, placeAt, Segment.shape, hv, Keyed.get?_put_of_ne hv]

end Node

/-! ## The trie as an index -/

/-- The entries of a shape, by method. -/
def placeOf (es : List Entry) (s : List SegmentShape) : Place :=
  (es.filter fun e => e.pattern.shape = s).map fun e => (e.method, e)

theorem get?_placeOf (es : List Entry) (s : List SegmentShape) (method : String) :
    Keyed.get? method (placeOf es s) = es.find? fun e => decide (e.method = method) &&
      decide (e.pattern.shape = s) :=
  Keyed.get?_map_filter (fun e : Entry => e.method)
    (fun e => decide (e.pattern.shape = s)) method es

/-- The trie holds the entries at their shapes, and no two of them at the same method and shape. -/
structure Indexed (t : Table) : Prop where
  tailLast : ∀ e ∈ t.entries, TailLast e.pattern.shape
  slots : t.entries.Pairwise fun a b => a.slot ≠ b.slot
  places : ∀ s, TailLast s → t.root.placeAt s = placeOf t.entries s

theorem Indexed.find_eq {t : Table} (ht : Indexed t) {p : Pattern} (hp : TailLast p.shape) :
    t.root.find p.segments = placeOf t.entries p.shape := by
  rw [Node.find_eq_placeAt]
  exact ht.places p.shape hp

theorem indexed_empty : Indexed .empty where
  tailLast := by simp [Table.empty]
  slots := List.Pairwise.nil
  places := fun s _ => Node.placeAt_empty s

theorem pairwise_concat {r : Entry → Entry → Prop} {es : List Entry} {e : Entry} (h : es.Pairwise r)
    (hnew : ∀ b ∈ es, r b e) : (es ++ [e]).Pairwise r := by
  refine List.pairwise_append.mpr ⟨h, List.pairwise_singleton _ _, ?_⟩
  intro b hb c hc
  rw [List.mem_singleton.mp hc]
  exact hnew b hb

/-- Inserting an entry with a new slot keeps the index. -/
theorem Indexed.insert {t : Table} (ht : Indexed t) {e : Entry} (he : TailLast e.pattern.shape)
    (hnew : ∀ b ∈ t.entries, b.slot ≠ e.slot) : Indexed (t.insert e) where
  tailLast := by
    intro b hb
    rcases List.mem_append.mp hb with hb | hb
    · exact ht.tailLast b hb
    · rw [List.mem_singleton.mp hb]
      exact he
  slots := pairwise_concat ht.slots hnew
  places := by
    intro s hs
    change Node.placeAt s (t.root.insert e e.pattern.segments) = placeOf (t.entries ++ [e]) s
    rw [Node.placeAt_insert e t.root he hs, ht.places s hs,
      show e.pattern.segments.map Segment.shape = e.pattern.shape from rfl]
    by_cases hshape : e.pattern.shape = s
    · have hfree : Keyed.get? e.method (placeOf t.entries s) = none := by
        rw [get?_placeOf, List.find?_eq_none]
        intro b hb hsame
        simp only [Bool.and_eq_true, decide_eq_true_eq] at hsame
        exact hnew b hb (Prod.ext hsame.1 (hsame.2.trans hshape.symm))
      rw [if_pos hshape, Keyed.put_of_get?_eq_none hfree]
      simp [placeOf, hshape]
    · rw [if_neg hshape]
      simp [placeOf, hshape]

theorem Indexed.insertAll {t : Table} (ht : Indexed t) {es : List Entry}
    (hes : ∀ e ∈ es, TailLast e.pattern.shape)
    (hslots : (t.entries ++ es).Pairwise fun a b => a.slot ≠ b.slot) :
    Indexed (es.foldl Table.insert t) := by
  induction es generalizing t with
  | nil => exact ht
  | cons e es ih =>
    have hsplit : t.entries ++ e :: es = (t.insert e).entries ++ es := by simp [Table.insert]
    have hnew : ∀ b ∈ t.entries, b.slot ≠ e.slot := by
      intro b hb
      exact (List.pairwise_append.mp hslots).2.2 b hb e List.mem_cons_self
    rw [hsplit] at hslots
    exact ih (ht.insert (hes e List.mem_cons_self) hnew)
      (fun b hb => hes b (List.mem_cons_of_mem e hb)) hslots

/-- The rival of an entry is one that has its slot, and there is none only if no entry has. -/
theorem Indexed.rival?_spec {t : Table} (ht : Indexed t) (before : List Entry) {e : Entry}
    (he : TailLast e.pattern.shape) :
    (∀ r, t.rival? before e = some r → r ∈ t.entries ++ before ∧ r.slot = e.slot) ∧
      (t.rival? before e = none → ∀ b ∈ t.entries ++ before, b.slot ≠ e.slot) := by
  unfold Table.rival?
  rw [ht.find_eq he, get?_placeOf]
  cases hbatch : before.find? fun b => decide (b.slot = e.slot) with
  | some r =>
    refine ⟨?_, nofun⟩
    rintro r' ⟨⟩
    exact ⟨List.mem_append_right _ (List.mem_of_find?_eq_some hbatch),
      by simpa using List.find?_some hbatch⟩
  | none =>
    have hsame : ∀ b : Entry, b.slot = e.slot ↔ b.method = e.method ∧
        b.pattern.shape = e.pattern.shape :=
      fun b => Prod.ext_iff
    refine ⟨?_, ?_⟩
    · intro r hr
      refine ⟨List.mem_append_left _ (List.mem_of_find?_eq_some hr), (hsame r).mpr ?_⟩
      simpa using List.find?_some hr
    · intro hnone b hb hslot
      rcases List.mem_append.mp hb with hb | hb
      · exact List.find?_eq_none.mp hnone b hb (by simpa using (hsame b).mp hslot)
      · exact List.find?_eq_none.mp hbatch b hb (by simpa using hslot)

/-- An entry that passes its check has a slot that neither the table nor the batch has. -/
theorem Indexed.slot_ne_of_checkEntry {t : Table} (ht : Indexed t) {batch : List Entry} {e : Entry}
    (he : TailLast e.pattern.shape) (h : t.checkEntry batch e = .ok ()) :
    ∀ b ∈ t.entries ++ batch, b.slot ≠ e.slot := by
  have hrival : t.rival? batch e = none := by
    unfold Table.checkEntry at h
    split at h
    · cases h
    · dsimp only at h
      split at h
      · cases h
      · split at h
        · cases h
        · assumption
  exact (ht.rival?_spec batch he).2 hrival

theorem Indexed.slots_of_checkAll {t : Table} (ht : Indexed t) {batch es : List Entry}
    (hes : ∀ e ∈ es, TailLast e.pattern.shape)
    (hslots : (t.entries ++ batch).Pairwise fun a b => a.slot ≠ b.slot)
    (h : t.checkAll batch es = .ok ()) :
    (t.entries ++ batch ++ es).Pairwise fun a b => a.slot ≠ b.slot := by
  induction es generalizing batch with
  | nil => simpa using hslots
  | cons e es ih =>
    unfold Table.checkAll at h
    split at h
    · cases h
    · next hentry =>
      have hnew := ht.slot_ne_of_checkEntry (hes e List.mem_cons_self) hentry
      have hbatch : (t.entries ++ (batch ++ [e])).Pairwise fun a b => a.slot ≠ b.slot := by
        rw [← List.append_assoc]
        exact pairwise_concat hslots hnew
      have := ih (fun b hb => hes b (List.mem_cons_of_mem e hb)) hbatch h
      simpa using this

/-- An attempt to register keeps the index, whether it is accepted or not. -/
theorem Indexed.attempt {t : Table} (ht : Indexed t) {es : List Entry}
    (hes : ∀ e ∈ es, e.pattern.IsParsed) :
    Indexed (t.attempt es) := by
  have htail : ∀ e ∈ es, TailLast e.pattern.shape := fun e he => (hes e he).tailLast
  unfold Table.attempt Table.registerAll
  split_ifs
  · exact ht
  · cases h : t.checkAll [] es with
    | error err => exact ht
    | ok u =>
      have hslots := ht.slots_of_checkAll htail (by simpa using ht.slots) h
      exact ht.insertAll htail (by simpa using hslots)

theorem Indexed.perform {t : Table} (ht : Indexed t) {c : Call} (hc : c.IsParsed) :
    Indexed (t.perform c) := by
  cases c with
  | add method path handlerId level label =>
    cases h : Pattern.parse path with
    | error flaw => simpa [Table.perform, Table.parseEntry, h] using ht
    | ok p =>
      simp only [Table.perform, Table.parseEntry, h]
      refine ht.attempt ?_
      intro e he
      rw [List.mem_singleton.mp he]
      exact ⟨path, h⟩
  | register e =>
    refine ht.attempt ?_
    intro b hb
    rw [List.mem_singleton.mp hb]
    exact hc
  | registerAll es => exact ht.attempt hc
  | freeze => exact ⟨ht.tailLast, ht.slots, ht.places⟩

/-- The trie of a reachable table is an index of its entries. -/
theorem Reachable.indexed {t : Table} (h : Reachable t) : Indexed t := by
  obtain ⟨calls, hcalls, rfl⟩ := h
  have hrun : ∀ (calls : List Call) (t : Table), Indexed t → (∀ c ∈ calls, c.IsParsed) →
      Indexed (calls.foldl Table.perform t) := by
    intro calls
    induction calls with
    | nil => exact fun t ht _ => ht
    | cons c calls ih =>
      intro t ht hcalls
      exact ih _ (ht.perform (hcalls c List.mem_cons_self)) fun b hb =>
        hcalls b (List.mem_cons_of_mem c hb)
  exact hrun calls .empty indexed_empty hcalls

end Waypost.Route
