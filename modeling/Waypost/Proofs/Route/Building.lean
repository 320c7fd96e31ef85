import Waypost.Fault.Basic
import Waypost.Proofs.Route.Reversal

/-!
# Which labelled routes can be built

A path is built from a value for each name of the pattern. Two names are taken by the building
itself, though a pattern may have them.

* `Segment.Takes` : the arguments hold what a segment asks for; `exists_fillAll_iff` : then, and
  only then, the parts of a path can be filled in, and `fillAll_error` says what is wrong otherwise;
* `Claimed` : the arguments use a name that is taken;
* `Registered.urlFor_of_claimed`, `Registered.urlFor_of_unclaimed` : what comes of building with and
  without one;
* `exists_urlFor_iff_takes` : the whole; `not_forall_exists_urlFor` : a route with a name that is
  taken cannot be built from values that are otherwise right.
-/

namespace Waypost.Route

open Text

variable {t : Table} {e : Entry} {pattern : String} {args : Arguments} {segs : List Segment}
  {l : String}

/-! ## Filling in -/

/-- The arguments hold what a segment asks for: for a parameter a text that is one part of a path,
for a tail any text that is not empty. -/
def Segment.Takes (args : Arguments) : Segment → Prop
  | .literal _ => True
  | .parameter n => ∃ a, Keyed.get? n args = some a ∧ a.toText ≠ "" ∧ '/' ∉ a.toText.toList
  | .tail n => ∃ a, Keyed.get? n args = some a ∧ a.toText ≠ ""

theorem Segment.exists_fill_iff (pattern : String) {seg : Segment} :
    (∃ part, seg.fill pattern args = .ok part) ↔ seg.Takes args := by
  cases seg with
  | literal v => exact ⟨fun _ => trivial, fun _ => ⟨v, rfl⟩⟩
  | parameter n =>
    simp only [Segment.fill_parameter_iff, Segment.Takes]
    constructor
    · rintro ⟨_, a, ha, rfl, hone⟩
      exact ⟨a, ha, hone⟩
    · rintro ⟨a, ha, hone⟩
      exact ⟨_, a, ha, rfl, hone⟩
  | tail n =>
    simp only [Segment.fill_tail_iff, Segment.Takes]
    constructor
    · rintro ⟨_, a, ha, rfl, hne⟩
      exact ⟨a, ha, hne⟩
    · rintro ⟨a, ha, hne⟩
      exact ⟨_, a, ha, rfl, hne⟩

theorem Segment.Takes.exists_mem {seg : Segment} {n : String} (h : seg.Takes args)
    (hname : seg.name? = some n) :
    ∃ a ∈ args, a.1 = n := by
  cases seg with
  | literal v => cases hname
  | parameter m =>
    obtain rfl := Option.some.inj hname
    obtain ⟨a, ha, -⟩ := h
    exact ⟨(m, a), Keyed.mem_of_get? ha, rfl⟩
  | tail m =>
    obtain rfl := Option.some.inj hname
    obtain ⟨a, ha, -⟩ := h
    exact ⟨(m, a), Keyed.mem_of_get? ha, rfl⟩

/-- A segment that cannot be filled in lacks a right value. -/
theorem Segment.fill_error {seg : Segment} {err : FillError}
    (h : seg.fill pattern args = .error err) :
    (Fault.url (.fill err)).kind = .value := by
  cases seg with
  | literal v => cases h
  | parameter n =>
    rw [Segment.fill] at h
    split at h
    · cases h
      rfl
    · dsimp only at h
      split_ifs at h
      cases h
      rfl
  | tail n =>
    rw [Segment.fill] at h
    split at h
    · cases h
      rfl
    · split_ifs at h
      cases h
      rfl

theorem exists_fillAll_iff (pattern : String) :
    (∃ parts, fillAll pattern args segs = .ok parts) ↔ ∀ seg ∈ segs, seg.Takes args := by
  induction segs with
  | nil => exact ⟨fun _ => nofun, fun _ => ⟨[], rfl⟩⟩
  | cons seg segs ih =>
    rw [List.forall_mem_cons, ← ih, ← Segment.exists_fill_iff pattern]
    simp only [fillAll_cons_iff]
    constructor
    · rintro ⟨_, part, rest, hpart, hrest, -⟩
      exact ⟨⟨part, hpart⟩, ⟨rest, hrest⟩⟩
    · rintro ⟨⟨part, hpart⟩, ⟨rest, hrest⟩⟩
      exact ⟨_, part, rest, hpart, hrest, rfl⟩

theorem fillAll_error {err : FillError} (h : fillAll pattern args segs = .error err) :
    (Fault.url (.fill err)).kind = .value := by
  induction segs with
  | nil => cases h
  | cons seg segs ih =>
    rw [fillAll] at h
    cases hseg : seg.fill pattern args with
    | error err' =>
      rw [hseg] at h
      cases h
      exact Segment.fill_error hseg
    | ok part =>
      rw [hseg] at h
      dsimp only at h
      cases hsegs : fillAll pattern args segs with
      | error err' =>
        rw [hsegs] at h
        cases h
        exact ih hsegs
      | ok parts =>
        rw [hsegs] at h
        cases h

/-! ## Names that are taken -/

/-- The arguments use a name that building takes for itself. -/
def Claimed (args : Arguments) : Prop :=
  ∃ a ∈ args, a.1 = "self" ∨ a.1 = "label"

theorem firstReserved?_eq_none_iff {reserved : List String} :
    args.firstReserved? reserved = none ↔ ∀ a ∈ args, a.1 ∉ reserved := by
  unfold Arguments.firstReserved?
  rw [Option.map_eq_none_iff, List.find?_eq_none]
  simp only [List.contains_iff_mem]

theorem firstReserved?_of_unclaimed (h : ¬ Claimed args) :
    args.firstReserved? ["self", "label"] = none ∧ args.firstReserved? ["self"] = none := by
  rw [firstReserved?_eq_none_iff, firstReserved?_eq_none_iff]
  constructor
  · intro a ha hname
    exact h ⟨a, ha, by simpa using hname⟩
  · intro a ha hname
    exact h ⟨a, ha, Or.inl (List.mem_singleton.mp hname)⟩

theorem urlFor_of_claimed (t : Table) (l : String) (h : Claimed args) :
    ∃ err, t.urlFor l args = .error err ∧ (Fault.url err).kind = .type := by
  unfold Table.urlFor
  cases hreserved : args.firstReserved? ["self", "label"] with
  | some name => exact ⟨_, rfl, rfl⟩
  | none =>
    obtain ⟨a, ha, hname⟩ := h
    have htaken : a.1 ∈ ["self", "label"] := by simpa using hname
    exact absurd htaken (firstReserved?_eq_none_iff.mp hreserved a ha)

/-- Where no name that is taken is used, a labelled route is built if its segments take the
arguments, and otherwise a value is at fault. -/
theorem Registered.urlFor_of_unclaimed (ht : Registered t) (he : e ∈ t.entries)
    (hl : e.label = some l) (h : ¬ Claimed args) :
    ((∃ path, t.urlFor l args = .ok path) ↔ ∀ seg ∈ e.pattern.segments, seg.Takes args) ∧
      ∀ err, t.urlFor l args = .error err → (Fault.url err).kind = .value := by
  obtain ⟨hfree, hself⟩ := firstReserved?_of_unclaimed h
  rw [urlFor_of_label (ht.get?_label he hl) hfree, ← exists_fillAll_iff e.pattern.text,
    Pattern.fill, hself]
  dsimp only
  cases hfilled : fillAll e.pattern.text args e.pattern.segments with
  | error err =>
    refine ⟨⟨nofun, nofun⟩, ?_⟩
    rintro _ ⟨⟩
    exact fillAll_error hfilled
  | ok parts => exact ⟨⟨fun _ => ⟨parts, rfl⟩, fun _ => ⟨_, rfl⟩⟩, nofun⟩

/-- Every labelled route of a reachable table is built from arguments that hold what its segments
ask for, and from no others, where a missing or a wrong value is at fault; unless the arguments use
a name that is taken, which is an error of another kind. So a route with such a name in its pattern
is built from no arguments at all. -/
theorem exists_urlFor_iff_takes (ht : Reachable t) (he : e ∈ t.entries) (hl : e.label = some l) :
    (∀ args : Arguments, ¬ Claimed args →
        ((∃ path, t.urlFor l args = .ok path) ↔ ∀ seg ∈ e.pattern.segments, seg.Takes args) ∧
          ∀ err, t.urlFor l args = .error err → (Fault.url err).kind = .value) ∧
      (∀ args : Arguments, Claimed args → ∃ err, t.urlFor l args = .error err ∧
        (Fault.url err).kind = .type) ∧
      ("self" ∈ e.pattern.names ∨ "label" ∈ e.pattern.names →
        ∀ args path, t.urlFor l args ≠ .ok path) := by
  refine ⟨fun args h => ht.registered.urlFor_of_unclaimed he hl h,
    fun args h => urlFor_of_claimed t l h, ?_⟩
  intro hnames args path hbuilt
  by_cases hclaimed : Claimed args
  · obtain ⟨err, herror, -⟩ := urlFor_of_claimed t l hclaimed
    rw [hbuilt] at herror
    cases herror
  have htakes := (ht.registered.urlFor_of_unclaimed he hl hclaimed).1.mp ⟨path, hbuilt⟩
  -- The pattern asks for a value under each of its names.
  have hgiven : ∀ n ∈ e.pattern.names, ∃ a ∈ args, a.1 = n := by
    intro n hn
    obtain ⟨seg, hseg, hname⟩ := List.mem_filterMap.mp hn
    exact (htakes seg hseg).exists_mem hname
  rcases hnames with hself | hlabel
  · obtain ⟨a, ha, hname⟩ := hgiven _ hself
    exact hclaimed ⟨a, ha, Or.inl hname⟩
  · obtain ⟨a, ha, hname⟩ := hgiven _ hlabel
    exact hclaimed ⟨a, ha, Or.inr hname⟩

/-- A labelled route with an ordinary name, and one with a name that is taken. -/
def namingTable : Table :=
  [Call.add "GET" "/users/:user/files/*rest" "files.any" .anonymous (some "file"),
    .add "GET" "/items/:label" "items.show" .anonymous (some "item")].foldl Table.perform .empty

/-- The route with ordinary names. -/
def fileRoute : Entry :=
  ⟨"GET", ⟨[.literal "users", .parameter "user", .literal "files", .tail "rest"]⟩,
    "files.any", .anonymous, some "file"⟩

/-- The route with a name that is taken. -/
def labelRoute : Entry :=
  ⟨"GET", ⟨[.literal "items", .parameter "label"]⟩, "items.show", .anonymous, some "item"⟩

theorem namingTable_reachable : Reachable namingTable :=
  ⟨_, by simp [Call.IsParsed], rfl⟩

theorem exists_urlFor_iff_takes_naming :
    (∃ path, namingTable.urlFor "file" [("rest", .text "docs/a.txt"), ("user", .int 7)] =
      .ok path) ∧
      (∃ err, namingTable.urlFor "file" [("user", .text "a/b"), ("rest", .none)] = .error err ∧
        (Fault.url err).kind = .value) ∧
      ∀ args path, namingTable.urlFor "item" args ≠ .ok path := by
  obtain ⟨hunclaimed, -, -⟩ :=
    exists_urlFor_iff_takes namingTable_reachable (e := fileRoute) (l := "file") (by decide) rfl
  obtain ⟨-, -, hnever⟩ :=
    exists_urlFor_iff_takes namingTable_reachable (e := labelRoute) (l := "item") (by decide) rfl
  have hright : ¬ Claimed [("rest", .text "docs/a.txt"), ("user", .int 7)] := by simp [Claimed]
  have hwrong : ¬ Claimed [("user", .text "a/b"), ("rest", .none)] := by simp [Claimed]
  refine ⟨(hunclaimed _ hright).1.mpr ?_, ⟨_, rfl, (hunclaimed _ hwrong).2 _ rfl⟩,
    hnever (Or.inr (by decide))⟩
  simp only [fileRoute, List.forall_mem_cons]
  exact ⟨trivial, ⟨.int 7, rfl, by decide, by decide⟩, trivial,
    ⟨.text "docs/a.txt", rfl, by decide⟩, nofun⟩

/-- Arguments that hold what every segment of a labelled route asks for, and nothing else, do not
always build a path: one of the names may be taken. -/
theorem not_forall_exists_urlFor :
    ¬ ∀ t e l, Reachable t → e ∈ t.entries → e.label = some l → ∀ args : Arguments,
      (∀ a ∈ args, a.1 ∈ e.pattern.names) → (∀ seg ∈ e.pattern.segments, seg.Takes args) →
        ∃ path, t.urlFor l args = .ok path := by
  intro h
  have htakes : ∀ seg ∈ labelRoute.pattern.segments, seg.Takes [("label", .text "7")] := by
    simp only [labelRoute, List.forall_mem_cons]
    exact ⟨trivial, ⟨.text "7", rfl, by decide, by decide⟩, nofun⟩
  obtain ⟨path, hbuilt⟩ :=
    h namingTable labelRoute "item" namingTable_reachable (by decide) rfl [("label", .text "7")]
      (by decide) htakes
  cases hbuilt

end Waypost.Route
