import Mathlib.Algebra.Order.BigOperators.Group.List
import Waypost.Proofs.Route.Batch
import Waypost.Proofs.Route.Precedence
import Waypost.Proofs.Text.Pieces

/-!
# No route is shadowed

Whatever other routes a table has, each of its routes answers some path.

* `Spelled` : what the literals of a parsed pattern are like (`Pattern.IsParsed.spelled`): an empty
  one is the last segment, so no pattern goes on below an empty part;
* `ownParts part segs` : the parts of a path for the segments of one pattern: literals as they are,
  `part` for a parameter, and an empty part before `part` for a tail, which no parameter takes and
  below which no literal goes on;
* `ranks_le_of_ownParts` : if `part` is no literal of the patterns, none that takes these parts
  comes before that one;
* `exists_lookup_eq_matched` : the whole.
-/

namespace Waypost.Route

open Text

/-! ## The literals of parsed patterns -/

/-- No literal holds a slash, and an empty one is the last segment. -/
def Spelled : List SegmentShape → Prop
  | [] => True
  | .literal v :: s => '/' ∉ v.toList ∧ (v = "" → s = []) ∧ Spelled s
  | .parameter :: s => Spelled s
  | .tail :: s => Spelled s

/-- A literal is the part that it was read from, which is empty only at the end. -/
theorem parsePart_literal {seen : List String} {last : Bool} {part v : String}
    (h : parsePart seen last part = .ok (.literal v)) : v = part ∧ (v = "" → last = true) := by
  unfold parsePart at h
  split at h
  · next hnil =>
    split_ifs at h with hlast
    obtain rfl := Segment.literal.inj (Except.ok.inj h)
    exact ⟨(String.toList_eq_nil_iff.mp hnil).symm, fun _ => hlast⟩
  · next c cs hcons =>
    dsimp only at h
    split_ifs at h <;> cases h
    refine ⟨rfl, ?_⟩
    rintro rfl
    cases hcons

theorem spelled_of_parseParts {seen parts : List String} {segs : List Segment}
    (hparts : ∀ p ∈ parts, '/' ∉ p.toList) (h : parseParts seen parts = .ok segs) :
    Spelled (segs.map Segment.shape) := by
  induction parts generalizing seen segs with
  | nil =>
    cases h
    trivial
  | cons part rest ih =>
    unfold parseParts at h
    split at h
    · cases h
    · next seg hseg =>
      split at h
      · cases h
      · next segs' hrest =>
        cases h
        have hbelow := ih (fun p hp => hparts p (List.mem_cons_of_mem part hp)) hrest
        cases seg with
        | parameter name => exact hbelow
        | tail name => exact hbelow
        | literal v =>
          obtain ⟨rfl, hlast⟩ := parsePart_literal hseg
          refine ⟨hparts v List.mem_cons_self, ?_, hbelow⟩
          intro hempty
          rw [List.isEmpty_iff.mp (hlast hempty)] at hrest
          cases hrest
          rfl

theorem pathParts?_spec {path : String} {parts : List String} (h : pathParts? path = some parts) :
    parts ≠ [] ∧ ∀ p ∈ parts, '/' ∉ p.toList := by
  unfold pathParts? at h
  split at h
  · obtain rfl := Option.some.inj h
    refine ⟨by simpa [split] using splitChars_ne_nil '/' _, ?_⟩
    intro p hp
    obtain ⟨q, hq, rfl⟩ := List.mem_map.mp hp
    rw [String.toList_ofList]
    exact notMem_of_mem_splitChars hq
  · cases h

/-- A parsed pattern is read part by part, and there is a part at least. -/
theorem Pattern.IsParsed.exists_parts {p : Pattern} (h : p.IsParsed) :
    ∃ parts, parts ≠ [] ∧ (∀ part ∈ parts, '/' ∉ part.toList) ∧
      parseParts [] parts = .ok p.segments := by
  obtain ⟨path, h⟩ := h
  unfold Pattern.parse at h
  split at h
  · cases h
  · next parts hparts =>
    split at h
    · cases h
    · next segs hsegs =>
      cases h
      exact ⟨parts, (pathParts?_spec hparts).1, (pathParts?_spec hparts).2, hsegs⟩

theorem Pattern.IsParsed.spelled {p : Pattern} (h : p.IsParsed) : Spelled p.shape := by
  obtain ⟨parts, -, hslash, hsegs⟩ := h.exists_parts
  exact spelled_of_parseParts hslash hsegs

theorem Pattern.IsParsed.segments_ne_nil {p : Pattern} (h : p.IsParsed) : p.segments ≠ [] := by
  obtain ⟨parts, hne, -, hsegs⟩ := h.exists_parts
  cases parts with
  | nil => exact absurd rfl hne
  | cons part rest =>
    unfold parseParts at hsegs
    split at hsegs
    · cases hsegs
    · split at hsegs
      · cases hsegs
      · rw [← Except.ok.inj hsegs]
        exact List.cons_ne_nil _ _

/-- A path comes apart into the parts that it was made of. -/
theorem pathParts?_pathOfParts {parts : List String} (hne : parts ≠ [])
    (h : ∀ p ∈ parts, '/' ∉ p.toList) :
    pathParts? (pathOfParts parts) = some parts := by
  have hjoin : splitChars '/' (joinChars '/' (parts.map String.toList)) =
      parts.map String.toList := by
    refine splitChars_joinChars (by simpa using hne) ?_
    intro p hp
    obtain ⟨q, hq, rfl⟩ := List.mem_map.mp hp
    exact h q hq
  unfold pathParts? pathOfParts
  rw [String.toList_ofList]
  change some (split '/' (String.ofList (join '/' parts).toList)) = some parts
  rw [join, String.toList_ofList, split, String.toList_ofList, hjoin, List.map_map]
  simp [Function.comp_def]

/-! ## A path for one pattern -/

/-- The parts of a path for the segments of one pattern. -/
def ownParts (part : String) : List Segment → List String
  | [] => []
  | .literal v :: segs => v :: ownParts part segs
  | .parameter _ :: segs => part :: ownParts part segs
  | .tail _ :: _ => ["", part]

theorem ownParts_ne_nil (part : String) {segs : List Segment} (h : segs ≠ []) :
    ownParts part segs ≠ [] := by
  cases segs with
  | nil => exact absurd rfl h
  | cons seg segs => cases seg <;> exact List.cons_ne_nil _ _

theorem ownParts_slash {part : String} (hpart : '/' ∉ part.toList) {segs : List Segment}
    (hsegs : Spelled (segs.map Segment.shape)) : ∀ p ∈ ownParts part segs, '/' ∉ p.toList := by
  induction segs with
  | nil => exact nofun
  | cons seg segs ih =>
    cases seg with
    | literal v => exact List.forall_mem_cons.mpr ⟨hsegs.1, ih hsegs.2.2⟩
    | parameter name => exact List.forall_mem_cons.mpr ⟨hpart, ih hsegs⟩
    | tail name => exact List.forall_mem_cons.mpr ⟨by simp, List.forall_mem_singleton.mpr hpart⟩

/-- The pattern takes the parts. -/
theorem isSome_ownParts {part : String} (hpart : part ≠ "") {segs : List Segment}
    (hsegs : TailLast (segs.map Segment.shape)) :
    (shapeValues (segs.map Segment.shape) (ownParts part segs)).isSome := by
  induction segs with
  | nil => rfl
  | cons seg segs ih =>
    cases seg with
    | literal v => exact isSome_shapeValues_literal.mpr ⟨_, rfl, ih hsegs⟩
    | parameter name =>
      exact isSome_shapeValues_parameter.mpr ⟨part, _, rfl, by simpa using hpart, ih hsegs⟩
    | tail name =>
      refine isSome_shapeValues_tail.mpr ⟨hsegs, List.cons_ne_nil _ _, ?_⟩
      simp [ownParts, join, joinChars]

theorem ranks_cons_le {a b : SegmentShape} {s t : List SegmentShape}
    (h : a.rank < b.rank ∨ a.rank = b.rank ∧ ranks s ≤ ranks t) :
    ranks (a :: s) ≤ ranks (b :: t) := by
  rcases h with hlt | ⟨heq, hle⟩
  · exact ((ranks_append_lt [] s t hlt.ne).mpr hlt).le
  · refine not_lt.mp fun hlt => ?_
    rcases List.cons_lt_cons_iff.mp hlt with hlt | ⟨-, hlt⟩
    · exact absurd heq hlt.ne'
    · exact absurd hle (not_le.mpr hlt)

/-- No other shape that takes the parts comes before that of the pattern. -/
theorem ranks_le_of_ownParts {part : String} {segs : List Segment}
    (hsegs : TailLast (segs.map Segment.shape)) {s : List SegmentShape} (hs : Spelled s)
    (hstrange : SegmentShape.literal part ∉ s)
    (htakes : (shapeValues s (ownParts part segs)).isSome) :
    ranks (segs.map Segment.shape) ≤ ranks s := by
  induction segs generalizing s with
  | nil => exact not_lt.mp (List.not_lt_nil _)
  | cons seg segs ih =>
    cases s with
    | nil => cases seg <;> cases htakes
    | cons a s =>
      have hstrange' : SegmentShape.literal part ∉ s := fun h => hstrange (List.mem_cons_of_mem a h)
      cases seg with
      | literal v =>
        cases a with
        | literal w =>
          obtain ⟨rest, hrest, htakes⟩ := isSome_shapeValues_literal.mp htakes
          obtain ⟨-, rfl⟩ := List.cons.inj hrest
          exact ranks_cons_le (Or.inr ⟨rfl, ih hsegs hs.2.2 hstrange' htakes⟩)
        | parameter => exact ranks_cons_le (Or.inl (by simp [Segment.shape, SegmentShape.rank]))
        | tail => exact ranks_cons_le (Or.inl (by simp [Segment.shape, SegmentShape.rank]))
      | parameter name =>
        cases a with
        | literal w =>
          -- No pattern has the part as a literal.
          obtain ⟨rest, hrest, -⟩ := isSome_shapeValues_literal.mp htakes
          obtain ⟨rfl, -⟩ := List.cons.inj hrest
          exact absurd List.mem_cons_self hstrange
        | parameter =>
          obtain ⟨_, rest, hrest, -, htakes⟩ := isSome_shapeValues_parameter.mp htakes
          obtain ⟨-, rfl⟩ := List.cons.inj hrest
          exact ranks_cons_le (Or.inr ⟨rfl, ih hsegs hs hstrange' htakes⟩)
        | tail => exact ranks_cons_le (Or.inl (by simp [Segment.shape, SegmentShape.rank]))
      | tail name =>
        obtain rfl : segs = [] := List.map_eq_nil_iff.mp hsegs
        cases a with
        | literal w =>
          -- Only an empty literal takes the empty part, and nothing follows it that could take the
          -- rest.
          obtain ⟨rest, hrest, htakes⟩ := isSome_shapeValues_literal.mp htakes
          obtain ⟨rfl, rfl⟩ := List.cons.inj hrest
          rw [hs.2.1 rfl] at htakes
          cases htakes
        | parameter =>
          obtain ⟨_, rest, hrest, hne, -⟩ := isSome_shapeValues_parameter.mp htakes
          obtain ⟨rfl, -⟩ := List.cons.inj hrest
          exact absurd rfl hne
        | tail => exact ranks_cons_le (Or.inr ⟨rfl, not_lt.mp (List.not_lt_nil _)⟩)

/-! ## Every route answers -/

/-- For any texts there is a part of a path that is none of them. -/
theorem exists_strange (vs : List String) :
    ∃ part : String, part ≠ "" ∧ '/' ∉ part.toList ∧ part ∉ vs := by
  refine ⟨String.ofList (List.replicate ((vs.map String.length).sum + 1) 'x'), ?_, ?_, ?_⟩
  · simp
  · simp
  · intro hmem
    have hlength := List.single_le_sum (fun _ _ => Nat.zero_le _) _
      (List.mem_map_of_mem (f := String.length) hmem)
    rw [String.length_ofList, List.length_replicate] at hlength
    omega

/-- The texts of the literals of a shape. -/
def literals (s : List SegmentShape) : List String :=
  s.filterMap fun
    | .literal v => some v
    | _ => none

theorem mem_literals {v : String} {s : List SegmentShape} :
    v ∈ literals s ↔ SegmentShape.literal v ∈ s := by
  unfold literals
  rw [List.mem_filterMap]
  constructor
  · rintro ⟨a, ha, hv⟩
    cases a with
    | literal w => rwa [Option.some.inj hv] at ha
    | parameter => cases hv
    | tail => cases hv
  · exact fun h => ⟨_, h, rfl⟩

theorem upper_of_mem_methods : ∀ m ∈ methods, upper m = m := by
  decide

/-- An entry of a table is the one that its method and its shape lead to. -/
theorem Registered.entryAt?_eq {t : Table} (ht : Registered t) {e : Entry} (he : e ∈ t.entries) :
    entryAt? t.entries e.method e.pattern.shape = some e := by
  have hslots : (t.entries.map Entry.slot).Nodup := (pairwise_apart_iff.mp ht.apart).1
  unfold entryAt?
  cases h : t.entries.find? fun b => decide (b.method = e.method) &&
    decide (b.pattern.shape = e.pattern.shape) with
  | none => simpa using List.find?_eq_none.mp h e he
  | some b =>
    have hsame : b.method = e.method ∧ b.pattern.shape = e.pattern.shape := by
      simpa using List.find?_some h
    rw [List.inj_on_of_nodup_map hslots (List.mem_of_find?_eq_some h) he (Prod.ext hsame.1 hsame.2)]

/-- The first of the ranked shapes is the one that no other comes before. -/
theorem rankedShapes_eq_cons {es : List Entry} {parts : List String} {s : List SegmentShape}
    (hs : s ∈ rankedShapes es parts) (hfirst : ∀ s' ∈ rankedShapes es parts, ranks s ≤ ranks s') :
    ∃ rest, rankedShapes es parts = s :: rest := by
  have hsorted := pairwise_rankedShapes es parts
  cases h : rankedShapes es parts with
  | nil =>
    rw [h] at hs
    cases hs
  | cons s₀ rest =>
    rw [h] at hs hfirst hsorted
    rcases List.mem_cons.mp hs with rfl | hrest
    · exact ⟨rest, rfl⟩
    · have hlt := (List.pairwise_cons.mp hsorted).1 s hrest
      exact absurd (hfirst s₀ List.mem_cons_self) (not_le.mpr hlt)

/-- If the shape of an entry comes before all others that match a path, the entry is what the table
answers to its own method there. -/
theorem Registered.precedence_eq {t : Table} (ht : Registered t) {e : Entry} (he : e ∈ t.entries)
    {path : String}
    {parts : List String} (hparts : pathParts? path = some parts) (hfits : e.pattern.fits parts)
    (hfirst : ∀ b ∈ t.entries, b.pattern.fits parts →
      ranks e.pattern.shape ≤ ranks b.pattern.shape) :
    precedence t.entries e.method path =
      .matched e ((consume e.pattern.segments parts).getD []) := by
  obtain ⟨rest, hranked⟩ :=
    rankedShapes_eq_cons (mem_rankedShapes.mpr ⟨e, he, hfits, rfl⟩) fun s hs => by
    obtain ⟨b, hb, hbfits, rfl⟩ := mem_rankedShapes.mp hs
    exact hfirst b hb hbfits
  have hserved : servedBy? t.entries e.method e.pattern.shape = some e := by
    rw [servedBy?, ht.entryAt?_eq he, Option.some_or]
  unfold precedence
  rw [hparts]
  dsimp only
  rw [hranked, upper_of_mem_methods e.method (ht.known e he), List.findSome?_cons, hserved]

/-- Each entry of a reachable table is what the table answers to the entry's method and some
path. -/
theorem exists_lookup_eq_matched {t : Table} (ht : Reachable t) {e : Entry} (he : e ∈ t.entries) :
    ∃ path bound, t.lookup e.method path = .matched e bound := by
  have hregistered := ht.registered
  have hparsed := hregistered.parsed e he
  obtain ⟨part, hne, hslash, hstrange⟩ :=
    exists_strange (t.entries.flatMap fun b => literals b.pattern.shape)
  have hparts : pathParts? (pathOfParts (ownParts part e.pattern.segments)) =
      some (ownParts part e.pattern.segments) :=
    pathParts?_pathOfParts (ownParts_ne_nil part hparsed.segments_ne_nil)
      (ownParts_slash hslash hparsed.spelled)
  have hfits : e.pattern.fits (ownParts part e.pattern.segments) := by
    rw [fits_eq]
    exact isSome_ownParts hne hparsed.tailLast
  have hfirst : ∀ b ∈ t.entries, b.pattern.fits (ownParts part e.pattern.segments) →
      ranks e.pattern.shape ≤ ranks b.pattern.shape := by
    intro b hb hbfits
    rw [fits_eq] at hbfits
    refine ranks_le_of_ownParts hparsed.tailLast (hregistered.parsed b hb).spelled ?_ hbfits
    intro hmem
    exact hstrange (List.mem_flatMap.mpr ⟨b, hb, mem_literals.mpr hmem⟩)
  refine ⟨pathOfParts (ownParts part e.pattern.segments),
    (consume e.pattern.segments (ownParts part e.pattern.segments)).getD [], ?_⟩
  unfold Table.lookup
  rw [hparts]
  exact (hregistered.pick_eq_precedence e.method _ hparts).trans
    (hregistered.precedence_eq he hparts hfits hfirst)

/-- A tail beside routes that are more specific on almost every path that it matches. -/
def fileTable : Table :=
  [Call.add "GET" "/files/:name" "files.show" .anonymous none,
    .add "GET" "/files/:name/*more" "files.part" .anonymous none,
    .add "GET" "/files/*rest" "files.any" .anonymous none,
    .add "GET" "/files/:name/" "files.list" .anonymous none,
    .add "GET" "/files/" "files.all" .anonymous none].foldl Table.perform .empty

/-- The route of the tail. -/
def fileTail : Entry := ⟨"GET", ⟨[.literal "files", .tail "rest"]⟩, "files.any", .anonymous, none⟩

theorem exists_lookup_eq_matched_files :
    ∃ path bound, fileTable.lookup fileTail.method path = .matched fileTail bound := by
  have hreachable : Reachable fileTable := ⟨_, by simp [Call.IsParsed], rfl⟩
  have hentry : fileTail ∈ fileTable.entries := by decide
  exact exists_lookup_eq_matched hreachable hentry

end Waypost.Route
