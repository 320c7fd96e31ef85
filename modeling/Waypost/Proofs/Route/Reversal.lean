import Waypost.Proofs.Route.Order
import Waypost.Proofs.Route.Unshadowed

/-!
# Building paths and matching them

What is built for a labelled route is matched again, and what is matched is built again.

* `Segment.fill_parameter_iff`, `Segment.fill_tail_iff`, `fillAll_cons_iff` : when the parts of a
  path can be filled in;
* `consume_of_fillAll` : a pattern takes from the path that was built for it the texts of the
  arguments (`Arguments.textsOf`). A tail may bring slashes with it, so the path has more parts than
  were filled in: it has the pieces of each;
* `fillAll_of_consume` : filled in with what it takes from a path (`asArguments`), a pattern gives
  the path back;
* `mem_of_precedence`, `Registered.precedence_of_consume` : what an answer is, and who answers on a
  path that a pattern matches: its own entry or one that comes before it.
-/

namespace Waypost.Route

open Text

variable {t : Table} {e : Entry} {pattern path : String} {args : Arguments} {segs : List Segment}
  {parts : List String}
  {bound : List (String × String)}

/-! ## Filling in -/

/-- The texts that arguments give to names. -/
def Arguments.textsOf (args : Arguments) (names : List String) : List (String × String) :=
  names.filterMap fun n => (Keyed.get? n args).map fun a => (n, a.toText)

/-- Bound values as arguments. -/
def asArguments (bound : List (String × String)) : Arguments :=
  bound.map fun b => (b.1, .text b.2)

theorem Segment.fill_parameter_iff {n part : String} :
    (Segment.parameter n).fill pattern args = .ok part ↔
      ∃ a, Keyed.get? n args = some a ∧ a.toText = part ∧ part ≠ "" ∧ '/' ∉ part.toList := by
  rw [Segment.fill]
  cases Keyed.get? n args with
  | none => simp
  | some a =>
    simp only [Option.some.injEq, exists_eq_left']
    split_ifs with hbad
    · simp only [false_iff]
      rintro ⟨rfl, hne, hslash⟩
      simp [hne, hslash] at hbad
    · simp only [Except.ok.injEq, iff_self_and]
      rintro rfl
      simpa using hbad

theorem Segment.fill_tail_iff {n part : String} :
    (Segment.tail n).fill pattern args = .ok part ↔ ∃ a, Keyed.get? n args = some a ∧
      a.toText = part ∧ part ≠ "" := by
  rw [Segment.fill]
  cases Keyed.get? n args with
  | none => simp
  | some a =>
    simp only [Option.some.injEq, exists_eq_left']
    split_ifs with hbad
    · simp only [false_iff]
      rintro ⟨rfl, hne⟩
      simp [hne] at hbad
    · simp only [Except.ok.injEq, iff_self_and]
      rintro rfl
      simpa using hbad

theorem fillAll_cons_iff {seg : Segment} :
    fillAll pattern args (seg :: segs) = .ok parts ↔
      ∃ part rest, seg.fill pattern args = .ok part ∧ fillAll pattern args segs = .ok rest ∧
        part :: rest = parts := by
  rw [fillAll]
  cases seg.fill pattern args with
  | error err => simp
  | ok part =>
    cases fillAll pattern args segs with
    | error err => simp
    | ok rest => simp

theorem textsOf_cons {n : String} {names : List String} {a : Argument}
    (h : Keyed.get? n args = some a) :
    args.textsOf (n :: names) = (n, a.toText) :: args.textsOf names := by
  simp [Arguments.textsOf, h]

/-- A pattern takes from the pieces of what was filled in the texts of the arguments. -/
theorem consume_of_fillAll (htail : TailLast (segs.map Segment.shape))
    (hspelled : Spelled (segs.map Segment.shape)) (h : fillAll pattern args segs = .ok parts) :
    consume segs (parts.flatMap (split '/')) =
      some (args.textsOf (segs.filterMap Segment.name?)) := by
  induction segs generalizing parts with
  | nil =>
    cases h
    rfl
  | cons seg segs ih =>
    obtain ⟨part, rest, hpart, hrest, rfl⟩ := fillAll_cons_iff.mp h
    rw [List.flatMap_cons]
    cases seg with
    | literal v =>
      cases hpart
      rw [split_of_notMem hspelled.1, List.singleton_append, consume, if_pos rfl,
        ih htail hspelled.2.2 hrest]
      rfl
    | parameter n =>
      obtain ⟨a, ha, rfl, hne, hslash⟩ := Segment.fill_parameter_iff.mp hpart
      rw [split_of_notMem hslash, List.singleton_append, consume, if_neg (by simpa using hne),
        ih htail hspelled hrest, Option.map_some]
      exact congrArg some (textsOf_cons ha).symm
    | tail n =>
      obtain ⟨a, ha, rfl, hne⟩ := Segment.fill_tail_iff.mp hpart
      obtain rfl : segs = [] := List.map_eq_nil_iff.mp htail
      cases hrest
      have htexts : args.textsOf [n] = [(n, a.toText)] := textsOf_cons ha
      rw [List.flatMap_nil, List.append_nil]
      have hjoin := join_split '/' a.toText
      cases hsplit : split '/' a.toText with
      | nil =>
        rw [hsplit] at hjoin
        exact absurd hjoin.symm hne
      | cons p ps =>
        rw [hsplit] at hjoin
        rw [consume, hjoin, if_neg (by simpa using hne)]
        exact congrArg some htexts.symm

/-- With arguments that are what a pattern takes from some parts, the parts can be filled in
again. -/
theorem fillAll_of_consume (pattern : String) (hslash : ∀ p ∈ parts, '/' ∉ p.toList)
    (h : consume segs parts = some bound)
    (hargs : ∀ b ∈ bound, Keyed.get? b.1 args = some (.text b.2)) :
    ∃ filled, fillAll pattern args segs = .ok filled ∧ filled.flatMap (split '/') = parts := by
  induction segs generalizing parts bound with
  | nil =>
    cases parts with
    | nil => exact ⟨[], rfl, rfl⟩
    | cons part parts => cases h
  | cons seg segs ih =>
    cases parts with
    | nil => cases seg <;> simp [consume] at h
    | cons part parts =>
      obtain ⟨hpart, hparts⟩ := List.forall_mem_cons.mp hslash
      cases seg with
      | literal v =>
        rw [consume] at h
        split_ifs at h with hv
        subst hv
        obtain ⟨filled, hfilled, hpieces⟩ := ih hparts h hargs
        refine ⟨v :: filled, fillAll_cons_iff.mpr ⟨v, filled, rfl, hfilled, rfl⟩, ?_⟩
        rw [List.flatMap_cons, split_of_notMem hpart, hpieces, List.singleton_append]
      | parameter n =>
        rw [consume] at h
        split_ifs at h with hempty
        obtain ⟨bound, hbound, rfl⟩ := Option.map_eq_some_iff.mp h
        obtain ⟨hfirst, hrest⟩ := List.forall_mem_cons.mp hargs
        obtain ⟨filled, hfilled, hpieces⟩ := ih hparts hbound hrest
        have hfill : (Segment.parameter n).fill pattern args = .ok part :=
          Segment.fill_parameter_iff.mpr ⟨.text part, hfirst, rfl, by simpa using hempty, hpart⟩
        refine ⟨part :: filled, fillAll_cons_iff.mpr ⟨part, filled, hfill, hfilled, rfl⟩, ?_⟩
        rw [List.flatMap_cons, split_of_notMem hpart, hpieces, List.singleton_append]
      | tail n =>
        cases segs with
        | cons seg' segs => simp [consume] at h
        | nil =>
          rw [consume] at h
          split_ifs at h with hempty
          obtain rfl := Option.some.inj h
          have hfirst := hargs _ (List.mem_singleton_self _)
          have hfill : (Segment.tail n).fill pattern args = .ok (join '/' (part :: parts)) :=
            Segment.fill_tail_iff.mpr ⟨_, hfirst, rfl, by simpa using hempty⟩
          refine ⟨[join '/' (part :: parts)], fillAll_cons_iff.mpr ⟨_, [], hfill, rfl, rfl⟩, ?_⟩
          rw [List.flatMap_singleton, split_join_of_notMem (List.cons_ne_nil part parts) hslash]

/-! ## Names -/

theorem parsePart_name {seen : List String} {last : Bool} {part n : String} {seg : Segment}
    (h : parsePart seen last part = .ok seg) (hname : seg.name? = some n) : n ∉ seen := by
  unfold parsePart at h
  split at h
  · split_ifs at h
    cases h
    cases hname
  · dsimp only at h
    split_ifs at h with _ _ _ hseen
    all_goals cases h
    all_goals cases hname
    all_goals simpa using hseen

theorem nodup_names_of_parseParts {seen : List String} (h : parseParts seen parts = .ok segs) :
    (segs.filterMap Segment.name?).Nodup ∧ ∀ n ∈ segs.filterMap Segment.name?, n ∉ seen := by
  induction parts generalizing seen segs with
  | nil =>
    cases h
    simp
  | cons part rest ih =>
    unfold parseParts at h
    split at h
    · cases h
    · next seg hseg =>
      split at h
      · cases h
      · next segs' hrest =>
        cases h
        obtain ⟨hnodup, hfresh⟩ := ih hrest
        cases hname : seg.name? with
        | none =>
          rw [List.filterMap_cons_none hname]
          exact ⟨hnodup, by simpa [hname] using hfresh⟩
        | some n =>
          rw [hname] at hfresh
          rw [List.filterMap_cons_some hname, List.nodup_cons, List.forall_mem_cons]
          refine ⟨⟨fun hmem => ?_, hnodup⟩, parsePart_name hseg hname, fun m hm hseen => ?_⟩
          · exact hfresh n hmem (by simp)
          · exact hfresh m hm (by simp [hseen])

/-- A parsed pattern has no name twice. -/
theorem Pattern.IsParsed.nodup_names {p : Pattern} (h : p.IsParsed) : p.names.Nodup := by
  obtain ⟨parts, -, -, hsegs⟩ := h.exists_parts
  exact (nodup_names_of_parseParts hsegs).1

theorem keys_of_consume (h : consume segs parts = some bound) :
    Keyed.keys bound = segs.filterMap Segment.name? := by
  induction segs generalizing parts bound with
  | nil =>
    cases parts with
    | nil =>
      cases h
      rfl
    | cons part parts => cases h
  | cons seg segs ih =>
    cases parts with
    | nil => cases seg <;> simp [consume] at h
    | cons part parts =>
      cases seg with
      | literal v =>
        rw [consume] at h
        split_ifs at h
        exact ih h
      | parameter n =>
        rw [consume] at h
        split_ifs at h
        obtain ⟨bound, hbound, rfl⟩ := Option.map_eq_some_iff.mp h
        exact congrArg (n :: ·) (ih hbound)
      | tail n =>
        cases segs with
        | cons seg' segs => simp [consume] at h
        | nil =>
          rw [consume] at h
          split_ifs at h
          cases h
          rfl

/-- Each name of a parsed pattern is given the value that the pattern takes for it. -/
theorem get?_asArguments {p : Pattern} (hp : p.IsParsed)
    (h : consume p.segments parts = some bound) :
    ∀ b ∈ bound, Keyed.get? b.1 (asArguments bound) = some (.text b.2) := by
  have hnodup : (Keyed.keys bound).Nodup := by
    rw [keys_of_consume h]
    exact hp.nodup_names
  intro b hb
  rw [asArguments, Keyed.get?_map, Keyed.get?_of_mem hnodup hb, Option.map_some]

/-! ## Paths -/

theorem pathOfParts_of_pathParts? (h : pathParts? path = some parts) :
    pathOfParts parts = path := by
  unfold pathParts? at h
  split at h
  · next cs hcs =>
    obtain rfl := Option.some.inj h
    rw [pathOfParts, join_split, String.toList_ofList, ← hcs, String.ofList_toList]
  · cases h

/-- A path has the pieces of the parts that it was made of. -/
theorem pathParts?_pieces (hne : parts ≠ []) :
    pathParts? (pathOfParts parts) = some (parts.flatMap (split '/')) := by
  unfold pathParts? pathOfParts
  rw [String.toList_ofList]
  simp only [String.ofList_toList, split_join hne]

theorem fill_eq_ok_iff {p : Pattern} :
    p.fill args = .ok path ↔
      args.firstReserved? ["self"] = none ∧
        ∃ parts, fillAll p.text args p.segments = .ok parts ∧ pathOfParts parts = path := by
  unfold Pattern.fill
  cases args.firstReserved? ["self"] with
  | some name => simp
  | none =>
    cases fillAll p.text args p.segments with
    | error err => simp
    | ok parts => simp

/-- A path that was built for a pattern is matched by it, and gives the texts of the arguments
back. -/
theorem consume_of_fill {p : Pattern} (hp : p.IsParsed) (h : p.fill args = .ok path) :
    ∃ parts, pathParts? path = some parts ∧
      consume p.segments parts = some (args.textsOf p.names) := by
  obtain ⟨-, filled, hfilled, rfl⟩ := fill_eq_ok_iff.mp h
  have hne : filled ≠ [] := by
    cases hsegs : p.segments with
    | nil => exact absurd hsegs hp.segments_ne_nil
    | cons seg segs =>
      rw [hsegs] at hfilled
      obtain ⟨part, rest, -, -, rfl⟩ := fillAll_cons_iff.mp hfilled
      exact List.cons_ne_nil part rest
  exact ⟨_, pathParts?_pieces hne, consume_of_fillAll hp.tailLast hp.spelled hfilled⟩

/-- What a pattern takes from a path builds the path again. -/
theorem fill_of_consume {p : Pattern} (hp : p.IsParsed) (hself : "self" ∉ p.names)
    (hparts : pathParts? path = some parts) (h : consume p.segments parts = some bound) :
    p.fill (asArguments bound) = .ok path := by
  obtain ⟨hne, hslash⟩ := pathParts?_spec hparts
  have hkeys : Keyed.keys bound = p.names := keys_of_consume h
  have hfree : (asArguments bound).firstReserved? ["self"] = none := by
    unfold Arguments.firstReserved?
    rw [Option.map_eq_none_iff, List.find?_eq_none]
    intro a ha hname
    obtain ⟨b, hb, rfl⟩ := List.mem_map.mp ha
    have hb' : b.1 ∈ p.names := hkeys ▸ List.mem_map_of_mem hb
    simp only [List.contains_cons, List.contains_nil, Bool.or_false, beq_iff_eq] at hname
    rw [hname] at hb'
    exact hself hb'
  obtain ⟨filled, hfilled, hpieces⟩ := fillAll_of_consume p.text hslash h (get?_asArguments hp h)
  have hfilled_ne : filled ≠ [] := by
    rintro rfl
    exact hne hpieces.symm
  have hjoin : join '/' filled = join '/' parts := by
    rw [← join_split '/' (join '/' filled), split_join hfilled_ne, hpieces]
  refine fill_eq_ok_iff.mpr ⟨hfree, filled, hfilled, ?_⟩
  rw [← pathOfParts_of_pathParts? hparts, pathOfParts, pathOfParts, hjoin]

/-! ## Who answers -/

theorem mem_of_entryAt? {es : List Entry} {method : String} {s : List SegmentShape}
    (h : entryAt? es method s = some e) :
    e ∈ es :=
  List.mem_of_find?_eq_some h

theorem mem_of_servedBy? {es : List Entry} {method : String} {s : List SegmentShape}
    (h : servedBy? es method s = some e) :
    e ∈ es := by
  rcases Option.or_eq_some_iff.mp h with h | ⟨-, h⟩
  · exact mem_of_entryAt? h
  · split_ifs at h
    exact mem_of_entryAt? h

/-- An answer by precedence is an entry whose pattern takes the bound values from the path. -/
theorem mem_of_precedence {es : List Entry} {method : String}
    (h : precedence es method path = .matched e bound) :
    e ∈ es ∧ ∃ parts, pathParts? path = some parts ∧
      consume e.pattern.segments parts = some bound := by
  unfold precedence at h
  split at h
  · cases h
  · next parts hparts =>
    split at h
    · next e' hserved =>
      obtain ⟨rfl, rfl⟩ := Outcome.matched.inj h
      obtain ⟨s, hs, he⟩ := List.exists_of_findSome?_eq_some hserved
      have hfits := isSome_of_mem_rankedShapes hs
      rw [← shape_eq_of_servedBy? he, ← fits_eq] at hfits
      refine ⟨mem_of_servedBy? he, parts, hparts, ?_⟩
      obtain ⟨bound, hbound⟩ := Option.isSome_iff_exists.mp hfits
      rw [hbound, Option.getD_some]
    · dsimp only at h
      split_ifs at h

/-- On a path that the pattern of an entry matches, the entry answers to its own method, or one does
that matches the path too and comes before it. -/
theorem Registered.precedence_of_consume (ht : Registered t) (he : e ∈ t.entries)
    (hparts : pathParts? path = some parts) (h : consume e.pattern.segments parts = some bound) :
    precedence t.entries e.method path = .matched e bound ∨
      ∃ e' ∈ t.entries, ∃ bound', precedence t.entries e.method path = .matched e' bound' ∧
        e'.pattern.fits parts ∧ ranks e'.pattern.shape < ranks e.pattern.shape := by
  have hfits : e.pattern.fits parts = true := by rw [Pattern.fits, h, Option.isSome_some]
  obtain ⟨before, after, hranked⟩ := List.append_of_mem (mem_rankedShapes.mpr ⟨e, he, hfits, rfl⟩)
  have hserved : servedBy? t.entries e.method e.pattern.shape = some e := by
    rw [servedBy?, ht.entryAt?_eq he, Option.some_or]
  have hmethod := upper_of_mem_methods e.method (ht.known e he)
  unfold precedence
  rw [hparts]
  dsimp only
  rw [hmethod, hranked, List.findSome?_append, List.findSome?_cons, hserved]
  cases hbefore : before.findSome? (servedBy? t.entries e.method) with
  | none =>
    left
    rw [Option.none_or]
    dsimp only
    rw [h, Option.getD_some]
  | some e' =>
    right
    obtain ⟨s, hs, he'⟩ := List.exists_of_findSome?_eq_some hbefore
    have hshape := shape_eq_of_servedBy? he'
    have hmem : s ∈ rankedShapes t.entries parts := by
      rw [hranked]
      exact List.mem_append_left _ hs
    have hsorted := pairwise_rankedShapes t.entries parts
    rw [hranked, List.pairwise_append] at hsorted
    refine ⟨e', mem_of_servedBy? he', _, rfl, ?_, ?_⟩
    · rw [fits_eq, hshape]
      exact isSome_of_mem_rankedShapes hmem
    · rw [hshape]
      exact hsorted.2.2 s hs _ List.mem_cons_self

/-! ## Both ways -/

theorem Registered.fill_of_urlFor (ht : Registered t) (he : e ∈ t.entries) {l : String}
    (hl : e.label = some l) (h : t.urlFor l args = .ok path) : e.pattern.fill args = .ok path := by
  unfold Table.urlFor at h
  split at h
  · cases h
  · rw [ht.get?_label he hl] at h
    dsimp only at h
    split at h
    · cases h
    · next hfill =>
      cases h
      exact hfill

/-- A path that is built for a labelled route is answered for the route's method by the route
itself, with the texts of the arguments, or by another route that matches the path too and comes
before it. And the values that an answer binds build the path that was asked for, unless one of them
has the name that building keeps for itself. -/
theorem urlFor_lookup_inverse {t : Table} (ht : Reachable t) :
    (∀ e ∈ t.entries, ∀ l, e.label = some l →
      ∀ (args : Arguments) (path : String), t.urlFor l args = .ok path →
      ∃ e' bound, t.lookup e.method path = .matched e' bound ∧
        (e' = e ∧ bound = args.textsOf e.pattern.names ∨
          e' ∈ t.entries ∧ e' ≠ e ∧
            (∃ parts, pathParts? path = some parts ∧ e'.pattern.fits parts) ∧
            ranks e'.pattern.shape < ranks e.pattern.shape)) ∧
      ∀ (method path : String) (e : Entry) (bound : List (String × String)),
        t.lookup method path = .matched e bound → "self" ∉ e.pattern.names →
          e.pattern.fill (asArguments bound) = .ok path := by
  have hregistered := ht.registered
  refine ⟨?_, ?_⟩
  · intro e he l hl args path hurl
    have hfill := hregistered.fill_of_urlFor he hl hurl
    obtain ⟨parts, hparts, hconsume⟩ := consume_of_fill (hregistered.parsed e he) hfill
    rw [hregistered.toIndexed.lookup_eq]
    rcases hregistered.precedence_of_consume he hparts hconsume with
      hown | ⟨e', he', bound, hother, hfits, hlt⟩
    · exact ⟨e, _, hown, Or.inl ⟨rfl, rfl⟩⟩
    · refine ⟨e', bound, hother, Or.inr ⟨he', ?_, ⟨parts, hparts, hfits⟩, hlt⟩⟩
      rintro rfl
      exact lt_irrefl _ hlt
  · intro method path e bound hlookup hself
    rw [hregistered.toIndexed.lookup_eq] at hlookup
    obtain ⟨he, parts, hparts, hconsume⟩ := mem_of_precedence hlookup
    exact fill_of_consume (hregistered.parsed e he) hself hparts hconsume

/-- A labelled tail beside a route that is more specific on some of its paths. -/
def shelfTable : Table :=
  [Call.add "GET" "/files/*rest" "files.any" .anonymous (some "file"),
    .add "GET" "/files/:name" "files.show" .anonymous none].foldl Table.perform .empty

/-- The route of the tail. -/
def shelfTail : Entry :=
  ⟨"GET", ⟨[.literal "files", .tail "rest"]⟩, "files.any", .anonymous, some "file"⟩

theorem urlFor_lookup_inverse_shelf :
    shelfTable.urlFor "file" [("rest", .int 7)] = .ok "/files/7" ∧
      (∃ e bound, shelfTable.lookup "GET" "/files/7" = .matched e bound ∧ e ∈ shelfTable.entries ∧
        ranks e.pattern.shape < ranks shelfTail.pattern.shape) ∧
      shelfTable.lookup "HEAD" "/files//a/" = .matched shelfTail [("rest", "/a/")] ∧
      shelfTail.pattern.fill (asArguments [("rest", "/a/")]) = .ok "/files//a/" := by
  have hreachable : Reachable shelfTable := ⟨_, by simp [Call.IsParsed], rfl⟩
  have htail : shelfTail ∈ shelfTable.entries := by decide
  have hurl : shelfTable.urlFor "file" [("rest", .int 7)] = .ok "/files/7" := rfl
  have hmatched : shelfTable.lookup "HEAD" "/files//a/" = .matched shelfTail [("rest", "/a/")] :=
    rfl
  obtain ⟨hbuilt, hasked⟩ := urlFor_lookup_inverse hreachable
  refine ⟨hurl, ?_, hmatched, hasked _ _ _ _ hmatched (by decide)⟩
  obtain ⟨e, bound, hlookup, ⟨rfl, -⟩ | ⟨he, -, -, hlt⟩⟩ :=
    hbuilt shelfTail htail "file" rfl _ _ hurl
  · cases hlookup
  · exact ⟨e, bound, hlookup, he, hlt⟩

end Waypost.Route
