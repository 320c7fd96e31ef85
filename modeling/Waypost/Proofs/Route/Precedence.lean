import Mathlib.Data.List.Dedup
import Mathlib.Data.List.Sort
import Mathlib.Data.String.Basic
import Waypost.Proofs.Route.Registration

/-!
# Matching by precedence

The answer of a table to a method and a path is a function of the list of its entries.

* `consume` : what the segments of a pattern take from the parts of a path;
* `ranks` : the kinds of the segments of a shape, compared as words, so that the first position at
  which two shapes differ in kind decides;
* `rankedShapes`, `precedence` : the matching shapes in order, and the answer that the first of them
  with a suitable entry gives;
* `shapesAlong` : the shapes that the walk through the trie comes to, in the order of the walk
  (`candidates_eq`, `mem_shapesAlong`, `pairwise_shapesAlong`); for an indexed table they are the
  ranked shapes (`Indexed.shapesAlong_eq`);
* `Reachable.length_names` : an entry that the walk comes to has a name for each value bound on the
  way.
-/

namespace Waypost.Route

open Text

/-! ## Two lists in one order -/

/-- Lists in the order of an asymmetric relation that have the same members are the same list. -/
theorem eq_of_pairwise_of_mem_iff {α : Type} {r : α → α → Prop} (hr : ∀ a b, r a b → ¬ r b a)
    {l₁ l₂ : List α} (h₁ : l₁.Pairwise r) (h₂ : l₂.Pairwise r) (hmem : ∀ a, a ∈ l₁ ↔ a ∈ l₂) :
    l₁ = l₂ := by
  have hirr : ∀ {a b}, r a b → a ≠ b := by
    rintro a _ h rfl
    exact hr a a h h
  have hperm : l₁.Perm l₂ := (List.perm_ext_iff_of_nodup (h₁.imp hirr) (h₂.imp hirr)).mpr hmem
  exact hperm.eq_of_pairwise (fun a b _ _ hab hba => absurd hba (hr a b hab)) h₁ h₂

theorem mem_insertSorted {s t : String} {l : List String} :
    t ∈ insertSorted s l ↔ t = s ∨ t ∈ l := by
  induction l with
  | nil => simp [insertSorted]
  | cons u l ih =>
    unfold insertSorted
    split_ifs with h₁ h₂
    · subst h₁
      simp
    · simp
    · rw [List.mem_cons, ih, List.mem_cons]
      exact or_left_comm

theorem mem_sortedSet {t : String} {l : List String} : t ∈ sortedSet l ↔ t ∈ l := by
  induction l with
  | nil => simp [sortedSet]
  | cons s l ih =>
    rw [show sortedSet (s :: l) = insertSorted s (sortedSet l) from rfl, mem_insertSorted, ih,
      List.mem_cons]

theorem pairwise_insertSorted (s : String) {l : List String} (h : l.Pairwise (· < ·)) :
    (insertSorted s l).Pairwise (· < ·) := by
  induction l with
  | nil => simp [insertSorted]
  | cons u l ih =>
    obtain ⟨hu, hl⟩ := List.pairwise_cons.mp h
    unfold insertSorted
    split_ifs with h₁ h₂
    · exact h
    · refine List.pairwise_cons.mpr ⟨?_, h⟩
      intro t ht
      rcases List.mem_cons.mp ht with rfl | ht
      · exact h₂
      · exact lt_trans h₂ (hu t ht)
    · refine List.pairwise_cons.mpr ⟨?_, ih hl⟩
      intro t ht
      rcases mem_insertSorted.mp ht with rfl | ht
      · exact lt_of_le_of_ne (not_lt.mp h₂) (Ne.symm h₁)
      · exact hu t ht

theorem pairwise_sortedSet (l : List String) : (sortedSet l).Pairwise (· < ·) := by
  induction l with
  | nil => exact List.Pairwise.nil
  | cons s l ih => exact pairwise_insertSorted s ih

/-- The texts in order depend on nothing but which texts there are. -/
theorem sortedSet_congr {l₁ l₂ : List String} (h : ∀ s, s ∈ l₁ ↔ s ∈ l₂) :
    sortedSet l₁ = sortedSet l₂ := by
  refine eq_of_pairwise_of_mem_iff (r := fun s t : String => s < t) (fun a b hab => lt_asymm hab)
    (pairwise_sortedSet l₁) (pairwise_sortedSet l₂) ?_
  intro s
  rw [mem_sortedSet, mem_sortedSet, h]

/-! ## The rule of precedence -/

/-- What the segments of a pattern take from the parts of a path, position by position: a literal
its own text, a parameter one part that is not empty, and a tail at the end all that is left, unless
that is empty. -/
def consume : List Segment → List String → Option (List (String × String))
  | [], [] => some []
  | .literal v :: segs, part :: parts => if v = part then consume segs parts else none
  | .parameter name :: segs, part :: parts =>
    if part.isEmpty then none else (consume segs parts).map fun bound => (name, part) :: bound
  | [.tail name], part :: parts =>
    let rest := join '/' (part :: parts)
    if rest.isEmpty then none else some [(name, rest)]
  | _, _ => none

/-- Whether a pattern matches the path with the given parts. -/
def Pattern.fits (p : Pattern) (parts : List String) : Bool :=
  (consume p.segments parts).isSome

/-- The rank of a kind of segment: literals come before parameters and parameters before tails. -/
def SegmentShape.rank : SegmentShape → Nat
  | .literal _ => 0
  | .parameter => 1
  | .tail => 2

/-- The ranks of the segments of a shape. Shapes are compared by them as words are by their
letters. -/
def ranks (s : List SegmentShape) : List Nat :=
  s.map SegmentShape.rank

/-- The shapes of the entries that match, each once and in order of precedence. -/
def rankedShapes (es : List Entry) (parts : List String) : List (List SegmentShape) :=
  (((es.filter fun e => e.pattern.fits parts).map fun e => e.pattern.shape).dedup).insertionSort
    fun s t => ranks s ≤ ranks t

/-- The entry with a method and a shape. -/
def entryAt? (es : List Entry) (method : String) (s : List SegmentShape) : Option Entry :=
  es.find? fun e => decide (e.method = method) && decide (e.pattern.shape = s)

/-- The entry of a shape that serves a method: its own, or that of `GET` for a `HEAD` that has
none. -/
def servedBy? (es : List Entry) (method : String) (s : List SegmentShape) : Option Entry :=
  (entryAt? es method s).or (if method = "HEAD" then entryAt? es "GET" s else none)

/-- The answer to a method and a path: the first matching shape that serves the method, else the
methods of all that match. -/
def precedence (es : List Entry) (method path : String) : Outcome :=
  match pathParts? path with
  | none => .noRoute path
  | some parts =>
    match (rankedShapes es parts).findSome? (servedBy? es (upper method)) with
    | some e => .matched e ((consume e.pattern.segments parts).getD [])
    | none =>
      let matching := es.filter fun e => e.pattern.fits parts
      if matching.isEmpty then .noRoute path
      else .methodNotAllowed path (sortedSet (matching.map Entry.method))

/-! ## Shapes and the parts of a path -/

/-- The values that a shape takes from the parts of a path. -/
def shapeValues : List SegmentShape → List String → Option (List String)
  | [], [] => some []
  | .literal v :: s, part :: parts => if v = part then shapeValues s parts else none
  | .parameter :: s, part :: parts =>
    if part.isEmpty then none else (shapeValues s parts).map fun values => part :: values
  | [.tail], part :: parts =>
    let rest := join '/' (part :: parts)
    if rest.isEmpty then none else some [rest]
  | _, _ => none

/-- A pattern binds its names to the values that its shape takes, one to one. -/
theorem consume_eq (segs : List Segment) (parts : List String) :
    consume segs parts =
      (shapeValues (segs.map Segment.shape) parts).map fun values =>
        (segs.filterMap Segment.name?).zip values := by
  induction segs generalizing parts with
  | nil => cases parts <;> rfl
  | cons seg segs ih =>
    cases parts with
    | nil => cases seg <;> simp [consume, Segment.shape, shapeValues]
    | cons part parts =>
      cases seg with
      | literal v =>
        simp only [consume, List.map_cons, Segment.shape, shapeValues]
        split_ifs
        · exact ih parts
        · rfl
      | parameter name =>
        simp only [consume, List.map_cons, Segment.shape, shapeValues, ih parts]
        split_ifs
        · rfl
        · simp [Option.map_map, Function.comp_def, Segment.name?]
      | tail name =>
        cases segs with
        | nil =>
          simp only [consume, List.map_cons, Segment.shape, List.map_nil, shapeValues]
          split_ifs <;> rfl
        | cons seg' segs => rfl

/-- The shape of a pattern takes as many values as the pattern has names. -/
theorem length_of_shapeValues {segs : List Segment} {parts values : List String}
    (h : shapeValues (segs.map Segment.shape) parts = some values) :
    values.length = (segs.filterMap Segment.name?).length := by
  induction segs generalizing parts values with
  | nil =>
    cases parts with
    | nil =>
      cases h
      rfl
    | cons part parts => cases h
  | cons seg segs ih =>
    cases parts with
    | nil => cases seg <;> simp [Segment.shape, shapeValues] at h
    | cons part parts =>
      cases seg with
      | literal v =>
        simp only [List.map_cons, Segment.shape, shapeValues, Option.ite_none_right_eq_some] at h
        exact ih h.2
      | parameter name =>
        simp only [List.map_cons, Segment.shape, shapeValues, Option.ite_none_left_eq_some,
          Option.map_eq_some_iff] at h
        obtain ⟨-, rest, hrest, rfl⟩ := h
        exact congrArg Nat.succ (ih hrest)
      | tail name =>
        cases segs with
        | nil =>
          simp only [List.map_cons, List.map_nil, Segment.shape, shapeValues,
            Option.ite_none_left_eq_some] at h
          cases h.2
          rfl
        | cons seg' segs => cases h

theorem fits_eq (p : Pattern) (parts : List String) :
    p.fits parts = (shapeValues p.shape parts).isSome := by
  rw [Pattern.fits, consume_eq, Option.isSome_map]
  rfl

theorem isSome_shapeValues_nil {parts : List String} :
    (shapeValues [] parts).isSome ↔ parts = [] := by
  cases parts <;> simp [shapeValues]

theorem isSome_shapeValues_literal {v : String} {s : List SegmentShape} {parts : List String} :
    (shapeValues (.literal v :: s) parts).isSome ↔ ∃ rest, parts = v :: rest ∧
      (shapeValues s rest).isSome := by
  cases parts with
  | nil => simp [shapeValues]
  | cons part parts =>
    simp only [shapeValues, List.cons.injEq]
    split_ifs with h
    · simp [h]
    · simp [Ne.symm h]

theorem isSome_shapeValues_parameter {s : List SegmentShape} {parts : List String} :
    (shapeValues (.parameter :: s) parts).isSome ↔
      ∃ part rest, parts = part :: rest ∧ ¬ part.isEmpty ∧ (shapeValues s rest).isSome := by
  cases parts with
  | nil => simp [shapeValues]
  | cons part parts =>
    simp only [shapeValues, List.cons.injEq]
    split_ifs with h
    · simp [h]
    · simp [h]

theorem isSome_shapeValues_tail {s : List SegmentShape} {parts : List String} :
    (shapeValues (.tail :: s) parts).isSome ↔ s = [] ∧ parts ≠ [] ∧ ¬ (join '/' parts).isEmpty := by
  cases s with
  | cons a s => simp [shapeValues]
  | nil =>
    cases parts with
    | nil => simp [shapeValues]
    | cons part parts =>
      simp only [shapeValues]
      split_ifs with h
      · simp [h]
      · simp [h]

theorem tailLast_of_shapeValues {s : List SegmentShape} {parts : List String}
    (h : (shapeValues s parts).isSome) :
    TailLast s := by
  induction s generalizing parts with
  | nil => trivial
  | cons a s ih =>
    cases a with
    | literal v =>
      obtain ⟨rest, -, h⟩ := isSome_shapeValues_literal.mp h
      exact ih h
    | parameter =>
      obtain ⟨part, rest, -, -, h⟩ := isSome_shapeValues_parameter.mp h
      exact ih h
    | tail => exact (isSome_shapeValues_tail.mp h).1

/-- Shapes that take the same parts and begin with segments of one kind begin with one segment: two
literals that take the same part are equal. What follows takes the same parts again. -/
theorem head_eq_of_rank_eq {a b : SegmentShape} {s t : List SegmentShape} {parts : List String}
    (hs : (shapeValues (a :: s) parts).isSome) (ht : (shapeValues (b :: t) parts).isSome)
    (h : a.rank = b.rank) :
    a = b ∧ (s = t ∨ ∃ rest, (shapeValues s rest).isSome ∧ (shapeValues t rest).isSome) := by
  cases a with
  | literal v =>
    obtain ⟨rest, rfl, hs'⟩ := isSome_shapeValues_literal.mp hs
    cases b with
    | literal w =>
      obtain ⟨rest', hrest, ht'⟩ := isSome_shapeValues_literal.mp ht
      obtain ⟨hv, hrest⟩ := List.cons.inj hrest
      exact ⟨by rw [hv], Or.inr ⟨rest, hs', hrest ▸ ht'⟩⟩
    | parameter => simp [SegmentShape.rank] at h
    | tail => simp [SegmentShape.rank] at h
  | parameter =>
    obtain ⟨part, rest, rfl, -, hs'⟩ := isSome_shapeValues_parameter.mp hs
    cases b with
    | literal w => simp [SegmentShape.rank] at h
    | parameter =>
      obtain ⟨part', rest', hrest, -, ht'⟩ := isSome_shapeValues_parameter.mp ht
      exact ⟨rfl, Or.inr ⟨rest, hs', (List.cons.inj hrest).2 ▸ ht'⟩⟩
    | tail => simp [SegmentShape.rank] at h
  | tail =>
    obtain ⟨rfl, -⟩ := isSome_shapeValues_tail.mp hs
    cases b with
    | literal w => simp [SegmentShape.rank] at h
    | parameter => simp [SegmentShape.rank] at h
    | tail =>
      obtain ⟨rfl, -⟩ := isSome_shapeValues_tail.mp ht
      exact ⟨rfl, Or.inl rfl⟩

/-- Two shapes that take the same parts agree up to a position at which they differ in kind. -/
theorem exists_rank_ne {s t : List SegmentShape} {parts : List String}
    (hs : (shapeValues s parts).isSome) (ht : (shapeValues t parts).isSome) (hne : s ≠ t) :
    ∃ before a b s' t', s = before ++ a :: s' ∧ t = before ++ b :: t' ∧ a.rank ≠ b.rank := by
  induction s generalizing t parts with
  | nil =>
    obtain rfl := isSome_shapeValues_nil.mp hs
    cases t with
    | nil => exact absurd rfl hne
    | cons b t => cases b <;> simp [shapeValues] at ht
  | cons a s ih =>
    cases t with
    | nil =>
      obtain rfl := isSome_shapeValues_nil.mp ht
      cases a <;> simp [shapeValues] at hs
    | cons b t =>
      by_cases hrank : a.rank = b.rank
      · obtain ⟨rfl, rfl | ⟨rest, hs, ht⟩⟩ := head_eq_of_rank_eq hs ht hrank
        · exact absurd rfl hne
        · obtain ⟨before, b, c, s', t', hs', ht', hbc⟩ := ih hs ht fun h => hne (h ▸ rfl)
          exact ⟨a :: before, b, c, s', t', by rw [hs']; rfl, by rw [ht']; rfl, hbc⟩
      · exact ⟨[], a, b, s, t, rfl, rfl, hrank⟩

/-- The first position at which shapes differ in kind decides their order. -/
theorem ranks_append_lt (before s t : List SegmentShape) {a b : SegmentShape}
    (h : a.rank ≠ b.rank) :
    ranks (before ++ a :: s) < ranks (before ++ b :: t) ↔ a.rank < b.rank := by
  induction before with
  | nil => simp [ranks, List.cons_lt_cons_iff, h]
  | cons c before ih =>
    rw [← ih]
    simp [ranks]

theorem ranks_cons_lt {a b : SegmentShape} (s t : List SegmentShape) (h : a.rank < b.rank) :
    ranks (a :: s) < ranks (b :: t) :=
  (ranks_append_lt [] s t h.ne).mpr h

/-- Two shapes that take the same parts and have the same ranks are one. -/
theorem eq_of_ranks_eq {s t : List SegmentShape} {parts : List String}
    (hs : (shapeValues s parts).isSome) (ht : (shapeValues t parts).isSome)
    (h : ranks s = ranks t) : s = t := by
  by_contra hne
  obtain ⟨before, a, b, s', t', rfl, rfl, hrank⟩ := exists_rank_ne hs ht hne
  rcases lt_or_gt_of_ne hrank with hlt | hlt
  · exact ((ranks_append_lt before s' t' hrank).mpr hlt).ne h
  · exact ((ranks_append_lt before t' s' (Ne.symm hrank)).mpr hlt).ne h.symm

/-! ## The walk through the trie -/

/-- The shapes of the places that the parts of a path lead to, in the order of the walk. -/
def shapesAlong : List String → Node → List (List SegmentShape)
  | [], n => if n.ends.isEmpty then [] else [[]]
  | part :: parts, n =>
    let below (a : SegmentShape) (child : Option Node) : List (List SegmentShape) :=
      child.toList.flatMap fun c => (shapesAlong parts c).map fun s => a :: s
    below (.literal part) (Keyed.get? part n.literals)
      ++ (if part.isEmpty then [] else below .parameter n.parameter)
      ++ (if n.tails.isEmpty || (join '/' (part :: parts)).isEmpty then []
          else [[SegmentShape.tail]])

theorem mem_shapesAlong_cons {s : List SegmentShape} {part : String} {parts : List String}
    {n : Node} :
    s ∈ shapesAlong (part :: parts) n ↔
      (∃ c s', Keyed.get? part n.literals = some c ∧ s' ∈ shapesAlong parts c ∧
        s = .literal part :: s') ∨
      (¬ part.isEmpty ∧ ∃ c s', n.parameter = some c ∧ s' ∈ shapesAlong parts c ∧
        s = .parameter :: s') ∨
      (n.tails ≠ [] ∧ ¬ (join '/' (part :: parts)).isEmpty ∧ s = [.tail]) := by
  simp only [shapesAlong, List.mem_append, or_assoc]
  refine or_congr ?_ (or_congr ?_ ?_)
  · simp [eq_comm]
  · split_ifs with h <;> simp [h, eq_comm]
  · split_ifs with h
    · simp only [Bool.or_eq_true, List.isEmpty_iff] at h
      simp only [List.not_mem_nil, false_iff, not_and]
      intro h₁ h₂
      exact absurd h (not_or.mpr ⟨h₁, h₂⟩)
    · simp only [Bool.or_eq_true, List.isEmpty_iff, not_or] at h
      simp [h.1, h.2]

/-- A shape is on the way exactly if it takes the parts and its place holds an entry. -/
theorem mem_shapesAlong {s : List SegmentShape} {parts : List String} {n : Node} :
    s ∈ shapesAlong parts n ↔ (shapeValues s parts).isSome ∧ n.placeAt s ≠ [] := by
  induction parts generalizing s n with
  | nil =>
    cases s with
    | nil => simp [shapesAlong, shapeValues, Node.placeAt]
    | cons a s => cases a <;> simp [shapesAlong, shapeValues]
  | cons part parts ih =>
    rw [mem_shapesAlong_cons]
    constructor
    · rintro (⟨c, s', hc, hs', rfl⟩ | ⟨hpart, c, s', hc, hs', rfl⟩ | ⟨htails, hrest, rfl⟩)
      · obtain ⟨hvalues, hplace⟩ := ih.mp hs'
        exact ⟨isSome_shapeValues_literal.mpr ⟨parts, rfl, hvalues⟩,
          by simpa [Node.placeAt, hc] using hplace⟩
      · obtain ⟨hvalues, hplace⟩ := ih.mp hs'
        exact ⟨isSome_shapeValues_parameter.mpr ⟨part, parts, rfl, hpart, hvalues⟩,
          by simpa [Node.placeAt, hc] using hplace⟩
      · exact ⟨isSome_shapeValues_tail.mpr ⟨rfl, List.cons_ne_nil part parts, hrest⟩, htails⟩
    · rintro ⟨hvalues, hplace⟩
      cases s with
      | nil => simp [shapeValues] at hvalues
      | cons a s =>
        cases a with
        | literal v =>
          obtain ⟨rest, hparts, hvalues⟩ := isSome_shapeValues_literal.mp hvalues
          obtain ⟨rfl, rfl⟩ := List.cons.inj hparts
          cases h : Keyed.get? part n.literals with
          | none => simp [Node.placeAt, h] at hplace
          | some c =>
            have hs : s ∈ shapesAlong parts c :=
              ih.mpr ⟨hvalues, by simpa [Node.placeAt, h] using hplace⟩
            exact Or.inl ⟨c, s, rfl, hs, rfl⟩
        | parameter =>
          obtain ⟨_, rest, hparts, hpart, hvalues⟩ := isSome_shapeValues_parameter.mp hvalues
          obtain ⟨rfl, rfl⟩ := List.cons.inj hparts
          cases h : n.parameter with
          | none => simp [Node.placeAt, h] at hplace
          | some c =>
            have hs : s ∈ shapesAlong parts c :=
              ih.mpr ⟨hvalues, by simpa [Node.placeAt, h] using hplace⟩
            exact Or.inr (Or.inl ⟨hpart, c, s, rfl, hs, rfl⟩)
        | tail =>
          obtain ⟨rfl, -, hrest⟩ := isSome_shapeValues_tail.mp hvalues
          exact Or.inr (Or.inr ⟨hplace, hrest, rfl⟩)

/-! Below one segment the order is that of the walk below it; between segments their kinds
decide. -/

section Below

variable {a : SegmentShape} {child : Option Node} {parts : List String}

theorem pairwise_below (ih : ∀ c, (shapesAlong parts c).Pairwise fun s t => ranks s < ranks t) :
    (child.toList.flatMap fun c => (shapesAlong parts c).map fun s => a :: s).Pairwise fun s t =>
      ranks s < ranks t := by
  cases child with
  | none => exact List.Pairwise.nil
  | some c =>
    simp only [Option.toList_some, List.flatMap_singleton, List.pairwise_map]
    apply (ih c).imp
    intro s t hst
    simpa [ranks] using hst

theorem exists_eq_cons_of_mem_below {s : List SegmentShape}
    (hs : s ∈ child.toList.flatMap fun c => (shapesAlong parts c).map fun s => a :: s) :
    ∃ s', s = a :: s' := by
  simp only [List.mem_flatMap, List.mem_map] at hs
  obtain ⟨c, -, s', -, rfl⟩ := hs
  exact ⟨s', rfl⟩

end Below

/-- The walk comes to shapes in order of precedence. -/
theorem pairwise_shapesAlong (parts : List String) (n : Node) :
    (shapesAlong parts n).Pairwise fun s t => ranks s < ranks t := by
  induction parts generalizing n with
  | nil =>
    unfold shapesAlong
    split_ifs <;> simp
  | cons part parts ih =>
    simp only [shapesAlong]
    refine List.pairwise_append.mpr ⟨List.pairwise_append.mpr ⟨pairwise_below ih, ?_, ?_⟩, ?_, ?_⟩
    · split_ifs
      · exact List.Pairwise.nil
      · exact pairwise_below ih
    · intro s hs t ht
      split_ifs at ht
      · cases ht
      · obtain ⟨s', rfl⟩ := exists_eq_cons_of_mem_below hs
        obtain ⟨t', rfl⟩ := exists_eq_cons_of_mem_below ht
        exact ranks_cons_lt s' t' (by simp [SegmentShape.rank])
    · split_ifs <;> simp
    · intro s hs t ht
      split_ifs at ht
      · cases ht
      · rw [List.mem_singleton.mp ht]
        rcases List.mem_append.mp hs with hs | hs
        · obtain ⟨s', rfl⟩ := exists_eq_cons_of_mem_below hs
          exact ranks_cons_lt s' [] (by simp [SegmentShape.rank])
        · split_ifs at hs
          · cases hs
          · obtain ⟨s', rfl⟩ := exists_eq_cons_of_mem_below hs
            exact ranks_cons_lt s' [] (by simp [SegmentShape.rank])

/-- The places on the way are those of the shapes on the way, with the values that the shapes
take. -/
theorem candidates_eq (values parts : List String) (n : Node) :
    n.candidates values parts =
      (shapesAlong parts n).map fun s =>
        (n.placeAt s, values ++ (shapeValues s parts).getD []) := by
  induction parts generalizing values n with
  | nil =>
    unfold Node.candidates shapesAlong
    split_ifs <;> simp [Node.placeAt, shapeValues]
  | cons part parts ih =>
    simp only [Node.candidates, shapesAlong, List.map_append]
    refine congrArg₂ _ (congrArg₂ _ ?_ ?_) ?_
    · cases h : Keyed.get? part n.literals with
      | none => rfl
      | some c => simp [ih, Node.placeAt, shapeValues, h]
    · split_ifs with hpart
      · rfl
      · cases h : n.parameter with
        | none => rfl
        | some c =>
          simp only [ih, Option.toList_some, List.flatMap_singleton, List.map_map]
          refine List.map_congr_left ?_
          intro s hs
          obtain ⟨bound, hbound⟩ := Option.isSome_iff_exists.mp (mem_shapesAlong.mp hs).1
          simp [Node.placeAt, shapeValues, h, hpart, hbound]
    · split_ifs with h
      · rfl
      · simp only [Bool.or_eq_true, not_or] at h
        simp [Node.placeAt, shapeValues, h.2]

/-! ## The table and the rule -/

theorem mem_rankedShapes {es : List Entry} {parts : List String} {s : List SegmentShape} :
    s ∈ rankedShapes es parts ↔ ∃ e ∈ es, e.pattern.fits parts ∧ e.pattern.shape = s := by
  simp [rankedShapes, and_assoc]

theorem isSome_of_mem_rankedShapes {es : List Entry} {parts : List String} {s : List SegmentShape}
    (h : s ∈ rankedShapes es parts) : (shapeValues s parts).isSome := by
  obtain ⟨e, -, hfits, rfl⟩ := mem_rankedShapes.mp h
  rwa [fits_eq] at hfits

theorem pairwise_rankedShapes (es : List Entry) (parts : List String) :
    (rankedShapes es parts).Pairwise fun s t => ranks s < ranks t := by
  let le : List SegmentShape → List SegmentShape → Prop := fun s t => ranks s ≤ ranks t
  have : Std.Total le := ⟨fun s t => le_total (ranks s) (ranks t)⟩
  have : IsTrans (List SegmentShape) le := ⟨fun s t u => le_trans⟩
  have hle : (rankedShapes es parts).Pairwise le := List.pairwise_insertionSort le _
  have hnodup : (rankedShapes es parts).Nodup :=
    (List.perm_insertionSort le _).nodup_iff.mpr (List.nodup_dedup _)
  refine (hle.and hnodup).imp_of_mem ?_
  rintro s t hs ht ⟨hst, hne⟩
  refine lt_of_le_of_ne hst ?_
  intro heq
  exact hne (eq_of_ranks_eq (isSome_of_mem_rankedShapes hs) (isSome_of_mem_rankedShapes ht) heq)

theorem shape_eq_of_mem_placeOf {es : List Entry} {s : List SegmentShape} {method : String}
    {e : Entry} (h : (method, e) ∈ placeOf es s) : e.pattern.shape = s := by
  obtain ⟨e', he', hpair⟩ := List.mem_map.mp h
  obtain ⟨-, rfl⟩ := Prod.mk.inj hpair
  exact of_decide_eq_true (List.mem_filter.mp he').2

theorem placeOf_ne_nil {es : List Entry} {s : List SegmentShape} :
    placeOf es s ≠ [] ↔ ∃ e ∈ es, e.pattern.shape = s := by
  simp [placeOf, List.filter_eq_nil_iff]

/-- The walk through the trie of an indexed table comes to the ranked shapes of its entries. -/
theorem Indexed.shapesAlong_eq {t : Table} (ht : Indexed t) (parts : List String) :
    shapesAlong parts t.root = rankedShapes t.entries parts := by
  refine eq_of_pairwise_of_mem_iff (fun s t hst => lt_asymm hst) (pairwise_shapesAlong parts t.root)
    (pairwise_rankedShapes t.entries parts) ?_
  intro s
  rw [mem_shapesAlong, mem_rankedShapes]
  constructor
  · rintro ⟨hvalues, hplace⟩
    rw [ht.places s (tailLast_of_shapeValues hvalues), placeOf_ne_nil] at hplace
    obtain ⟨e, he, rfl⟩ := hplace
    exact ⟨e, he, by rwa [fits_eq], rfl⟩
  · rintro ⟨e, he, hfits, rfl⟩
    rw [fits_eq] at hfits
    refine ⟨hfits, ?_⟩
    rw [ht.places _ (ht.tailLast e he), placeOf_ne_nil]
    exact ⟨e, he, rfl⟩

/-- The first candidate that serves the method gives the answer; if there is none, the methods of
all candidates do. -/
theorem pick_eq (method path : String) (allowed : List String) (cs : List (Place × List String)) :
    Table.pick method path allowed cs =
      match cs.findSome? fun c => (Table.serving? method c.1).map fun e => (e, c.2) with
      | some (e, values) => .matched e (e.pattern.names.zip values)
      | none =>
        let methods := allowed ++ cs.flatMap fun c => Keyed.keys c.1
        if methods.isEmpty then .noRoute path else .methodNotAllowed path (sortedSet methods) := by
  induction cs generalizing allowed with
  | nil => simp [Table.pick]
  | cons c cs ih =>
    obtain ⟨place, values⟩ := c
    rw [Table.pick]
    cases h : Table.serving? method place with
    | some e => simp [h]
    | none =>
      simp only [ih, List.findSome?_cons, h, Option.map_none, List.flatMap_cons, List.append_assoc]

theorem serving?_placeOf (es : List Entry) (method : String) (s : List SegmentShape) :
    Table.serving? method (placeOf es s) = servedBy? es method s := by
  unfold Table.serving? servedBy?
  rw [get?_placeOf, get?_placeOf]
  change (match entryAt? es method s with | some e => some e | none => _) = _
  cases entryAt? es method s <;> rfl

theorem shape_eq_of_entryAt? {es : List Entry} {method : String} {s : List SegmentShape} {e : Entry}
    (h : entryAt? es method s = some e) : e.pattern.shape = s := by
  have := List.find?_some h
  simp only [Bool.and_eq_true, decide_eq_true_eq] at this
  exact this.2

theorem shape_eq_of_servedBy? {es : List Entry} {method : String} {s : List SegmentShape}
    {e : Entry} (h : servedBy? es method s = some e) : e.pattern.shape = s := by
  rcases Option.or_eq_some_iff.mp h with h | ⟨-, h⟩
  · exact shape_eq_of_entryAt? h
  · split_ifs at h
    exact shape_eq_of_entryAt? h

/-- The methods of the ranked shapes are the methods of the entries that match. -/
theorem mem_methods_rankedShapes {es : List Entry} {parts : List String} {method : String} :
    method ∈ ((rankedShapes es parts).flatMap fun s => Keyed.keys (placeOf es s)) ↔
      method ∈ (es.filter fun e => e.pattern.fits parts).map Entry.method := by
  simp only [List.mem_flatMap, mem_rankedShapes, Keyed.keys, placeOf, List.map_map, List.mem_map,
    List.mem_filter, decide_eq_true_eq, Function.comp_apply]
  constructor
  · rintro ⟨s, ⟨e, -, hfits, rfl⟩, b, ⟨hb, hshape⟩, rfl⟩
    refine ⟨b, ⟨hb, ?_⟩, rfl⟩
    rwa [fits_eq, hshape, ← fits_eq]
  · rintro ⟨e, ⟨he, hfits⟩, rfl⟩
    exact ⟨e.pattern.shape, ⟨e, he, hfits, rfl⟩, e, ⟨he, rfl⟩, rfl⟩

theorem Indexed.candidates_eq {t : Table} (ht : Indexed t) (parts : List String) :
    t.root.candidates [] parts =
      (rankedShapes t.entries parts).map fun s =>
        (placeOf t.entries s, (shapeValues s parts).getD []) := by
  rw [Route.candidates_eq, ht.shapesAlong_eq]
  refine List.map_congr_left ?_
  intro s hs
  rw [ht.places s (tailLast_of_shapeValues (isSome_of_mem_rankedShapes hs)), List.nil_append]

/-- Whatever entry `Table.pick` chooses from a place, its pattern has one name for each value bound
on the way there, so that the two lists are joined without a rest. -/
theorem Reachable.length_names {t : Table} (ht : Reachable t) {parts : List String} {place : Place}
    {values : List String} (hplace : (place, values) ∈ t.root.candidates [] parts) {method : String}
    {e : Entry} (he : (method, e) ∈ place) : e.pattern.names.length = values.length := by
  rw [ht.indexed.candidates_eq] at hplace
  obtain ⟨s, hs, hpair⟩ := List.mem_map.mp hplace
  obtain ⟨rfl, rfl⟩ := Prod.mk.inj hpair
  have hshape : e.pattern.shape = s := shape_eq_of_mem_placeOf he
  obtain ⟨values, hvalues⟩ := Option.isSome_iff_exists.mp (isSome_of_mem_rankedShapes hs)
  rw [hvalues, Option.getD_some]
  rw [← hshape] at hvalues
  exact (length_of_shapeValues hvalues).symm

/-- The first shape that serves the method, with the values that it takes. -/
theorem findSome?_servedBy? (es : List Entry) (method : String) (parts : List String)
    (shapes : List (List SegmentShape)) :
    (shapes.findSome? fun s => (servedBy? es method s).map fun e =>
      (e, (shapeValues s parts).getD [])) =
      (shapes.findSome? (servedBy? es method)).map fun e =>
        (e, (shapeValues e.pattern.shape parts).getD []) := by
  rw [List.map_findSome?]
  congr 1
  funext s
  cases h : servedBy? es method s with
  | none => simp [h]
  | some e => simp [h, shape_eq_of_servedBy? h]

/-- The walk through the trie and the rule of precedence give one answer. -/
theorem Indexed.pick_eq_precedence {t : Table} (ht : Indexed t) (method path : String)
    {parts : List String} (hparts : pathParts? path = some parts) :
    Table.pick (upper method) path [] (t.root.candidates [] parts) =
      precedence t.entries method path := by
  simp only [precedence, hparts]
  rw [pick_eq, ht.candidates_eq, List.findSome?_map, List.flatMap_map]
  simp only [Function.comp_def, serving?_placeOf, findSome?_servedBy?, List.nil_append]
  cases h : (rankedShapes t.entries parts).findSome? (servedBy? t.entries (upper method)) with
  | some e =>
    obtain ⟨s, hs, he⟩ := List.exists_of_findSome?_eq_some h
    have hvalues := isSome_of_mem_rankedShapes hs
    rw [← shape_eq_of_servedBy? he] at hvalues
    obtain ⟨values, hvalues⟩ := Option.isSome_iff_exists.mp hvalues
    have hbound : consume e.pattern.segments parts = some (e.pattern.names.zip values) := by
      rw [consume_eq, show e.pattern.segments.map Segment.shape = e.pattern.shape from rfl, hvalues]
      rfl
    simp [hvalues, hbound]
  | none =>
    have hmethods : ∀ m, m ∈ ((rankedShapes t.entries parts).flatMap fun s =>
        Keyed.keys (placeOf t.entries s)) ↔
        m ∈ (t.entries.filter fun e => e.pattern.fits parts).map Entry.method :=
      fun m => mem_methods_rankedShapes
    have hempty : ((rankedShapes t.entries parts).flatMap fun s =>
        Keyed.keys (placeOf t.entries s)).isEmpty =
        (t.entries.filter fun e => e.pattern.fits parts).isEmpty := by
      rw [Bool.eq_iff_iff, List.isEmpty_iff, List.isEmpty_iff,
        ← List.map_eq_nil_iff (f := Entry.method), List.eq_nil_iff_forall_not_mem,
        List.eq_nil_iff_forall_not_mem]
      exact forall_congr' fun m => not_congr (hmethods m)
    simp only [Option.map_none, hempty, sortedSet_congr hmethods]

/-- A reachable table answers by precedence, and precedence is decided: of two shapes that match one
path, the kinds of the segments at the first position at which they differ say which comes first. -/
theorem lookup_eq_precedence {t : Table} (ht : Reachable t) :
    (∀ method path, t.lookup method path = precedence t.entries method path) ∧
    ∀ (p q : Pattern) (parts : List String), p.fits parts → q.fits parts → p.shape ≠ q.shape →
      ∃ before a b s s', p.shape = before ++ a :: s ∧ q.shape = before ++ b :: s' ∧
        a.rank ≠ b.rank ∧ (ranks p.shape < ranks q.shape ↔ a.rank < b.rank) := by
  refine ⟨?_, ?_⟩
  · intro method path
    unfold Table.lookup
    cases hparts : pathParts? path with
    | none => simp [precedence, hparts]
    | some parts => exact ht.indexed.pick_eq_precedence method path hparts
  · intro p q parts hp hq hne
    rw [fits_eq] at hp hq
    obtain ⟨before, a, b, s, s', hs, hs', hrank⟩ := exists_rank_ne hp hq hne
    refine ⟨before, a, b, s, s', hs, hs', hrank, ?_⟩
    rw [hs, hs']
    exact ranks_append_lt before s s' hrank

/-- Routes below one literal, of which one is rejected and three match the path `/items/new`. -/
def itemCalls : List Call :=
  [.add "get" "/items/:id" "items.show" .anonymous none,
    .add "GET" "/items/new" "items.form" .authenticated none,
    .add "GET" "/items/:name" "items.rival" .anonymous none,
    .add "POST" "/items/*rest" "items.any" .anonymous none, .freeze]

theorem lookup_eq_precedence_items :
    (itemCalls.foldl Table.perform .empty).lookup "HEAD" "/items/new" =
        precedence (itemCalls.foldl Table.perform .empty).entries "HEAD" "/items/new" ∧
      ∃ (before : List SegmentShape) (a b : SegmentShape) (s s' : List SegmentShape),
        [.literal "items", .literal "new"] = before ++ a :: s ∧
          [.literal "items", .tail] = before ++ b :: s' ∧
        a.rank ≠ b.rank ∧
        (ranks [.literal "items", .literal "new"] < ranks [.literal "items", .tail] ↔
          a.rank < b.rank) := by
  have hreachable : Reachable (itemCalls.foldl Table.perform .empty) := by
    refine ⟨itemCalls, ?_, rfl⟩
    simp [itemCalls, Call.IsParsed]
  have h := lookup_eq_precedence hreachable
  exact ⟨h.1 "HEAD" "/items/new",
    h.2 ⟨[.literal "items", .literal "new"]⟩ ⟨[.literal "items", .tail "rest"]⟩ ["items", "new"]
    (by decide) (by decide) (by decide)⟩

end Waypost.Route
