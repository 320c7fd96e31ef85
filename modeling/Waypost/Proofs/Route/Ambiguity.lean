import Waypost.Proofs.Route.Order
import Waypost.Proofs.Route.Unshadowed

/-!
# Ambiguity is sameness of paths

Two patterns have one shape exactly if they match the same paths, so the check of a new entry
against the shapes of a table asks the right question.

* `Pattern.Matches` : what a table that holds one pattern only answers to a path
  (`Pattern.IsParsed.matches_iff`);
* `ranks_le_of_matches` : a pattern whose paths another matches too does not come after it. The path
  that shows it is the one on which a pattern is not shadowed, `ownParts`;
* `Registered.register_ambiguous_iff` : when a registration is rejected as ambiguous, in terms of
  slots;
* `ambiguous_iff_same_paths` : the whole. An entry whose label is in use as well is not called
  ambiguous (`not_forall_register_ambiguous_iff`).
-/

namespace Waypost.Route

variable {t : Table} {e : Entry} {p q : Pattern} {path : String}

/-! ## What one pattern matches -/

/-- An entry for the pattern. -/
def Pattern.soleEntry (p : Pattern) : Entry := ⟨"GET", p, "", .anonymous, none⟩

/-- The table that holds the pattern and nothing else. -/
def Pattern.alone (p : Pattern) : Table :=
  Table.empty.attempt [p.soleEntry]

/-- The pattern matches a path where there is nothing else that could. -/
def Pattern.Matches (p : Pattern) (path : String) : Prop :=
  ∃ bound, p.alone.lookup "GET" path = .matched p.soleEntry bound

theorem Pattern.IsParsed.registered_alone (hp : p.IsParsed) :
    Registered p.alone ∧ p.alone.entries = [p.soleEntry] := by
  have hparsed : p.soleEntry.pattern.IsParsed := hp
  refine ⟨registered_empty.attempt (List.forall_mem_singleton.mpr hparsed), ?_⟩
  have hmethod : p.soleEntry.method ∈ methods := List.mem_cons_self
  have hacceptable : Acceptable .empty [p.soleEntry] :=
    registered_empty.acceptable_iff.mpr ⟨rfl, List.forall_mem_singleton.mpr hmethod,
      List.pairwise_singleton _ _⟩
  rcases registered_empty.register_spec hparsed with ⟨hok, -⟩ | ⟨err, -, hnot, -⟩
  · rw [Pattern.alone, Table.attempt, ← Table.register, hok]
    rfl
  · exact absurd hacceptable hnot

/-- An answer by precedence comes of a pattern that matches. -/
theorem exists_fits_of_precedence {es : List Entry} {method : String}
    {bound : List (String × String)} (h : precedence es method path = .matched e bound) :
    ∃ parts, pathParts? path = some parts ∧ ∃ b ∈ es, b.pattern.fits parts := by
  unfold precedence at h
  split at h
  · cases h
  · next parts hparts =>
    split at h
    · next e' hserved =>
      obtain ⟨s, hs, -⟩ := List.exists_of_findSome?_eq_some hserved
      obtain ⟨b, hb, hfits, -⟩ := mem_rankedShapes.mp hs
      exact ⟨parts, hparts, b, hb, hfits⟩
    · dsimp only at h
      split_ifs at h

theorem Pattern.IsParsed.matches_iff (hp : p.IsParsed) :
    p.Matches path ↔ ∃ parts, pathParts? path = some parts ∧ p.fits parts := by
  obtain ⟨hregistered, hentries⟩ := hp.registered_alone
  unfold Pattern.Matches
  simp only [hregistered.toIndexed.lookup_eq]
  constructor
  · rintro ⟨bound, h⟩
    obtain ⟨parts, hparts, b, hb, hfits⟩ := exists_fits_of_precedence h
    rw [hentries] at hb
    rw [List.mem_singleton.mp hb] at hfits
    exact ⟨parts, hparts, hfits⟩
  · rintro ⟨parts, hparts, hfits⟩
    have hmem : p.soleEntry ∈ p.alone.entries := by
      rw [hentries]
      exact List.mem_singleton_self _
    refine ⟨_, hregistered.precedence_eq hmem hparts hfits ?_⟩
    intro b hb _
    rw [hentries] at hb
    rw [List.mem_singleton.mp hb]

/-! ## One shape -/

/-- If every path of a pattern is one of another, the other one takes the pattern's own path and
does not come before it. -/
theorem ranks_le_of_matches (hp : p.IsParsed) (hq : q.IsParsed) {part : String} (hne : part ≠ "")
    (hslash : '/' ∉ part.toList) (hstrange : SegmentShape.literal part ∉ q.shape)
    (h : ∀ path, p.Matches path → q.Matches path) :
    q.fits (ownParts part p.segments) ∧ ranks p.shape ≤ ranks q.shape := by
  have hparts : pathParts? (pathOfParts (ownParts part p.segments)) =
      some (ownParts part p.segments) :=
    pathParts?_pathOfParts (ownParts_ne_nil part hp.segments_ne_nil)
      (ownParts_slash hslash hp.spelled)
  have hown : p.fits (ownParts part p.segments) := by
    rw [fits_eq]
    exact isSome_ownParts hne hp.tailLast
  obtain ⟨parts, hparts', hfits⟩ := hq.matches_iff.mp (h _ (hp.matches_iff.mpr ⟨_, hparts, hown⟩))
  obtain rfl := Option.some.inj (hparts.symm.trans hparts')
  refine ⟨hfits, ranks_le_of_ownParts hp.tailLast hq.spelled hstrange ?_⟩
  rwa [fits_eq] at hfits

theorem shape_eq_iff_matches (hp : p.IsParsed) (hq : q.IsParsed) :
    p.shape = q.shape ↔ ∀ path, p.Matches path ↔ q.Matches path := by
  constructor
  · intro hshape path
    rw [hp.matches_iff, hq.matches_iff]
    simp only [fits_eq, hshape]
  · intro h
    obtain ⟨part, hne, hslash, hstrange⟩ := exists_strange (literals p.shape ++ literals q.shape)
    rw [List.mem_append, not_or, mem_literals, mem_literals] at hstrange
    obtain ⟨hfits, hle⟩ := ranks_le_of_matches hp hq hne hslash hstrange.2 fun path => (h path).mp
    obtain ⟨-, hge⟩ := ranks_le_of_matches hq hp hne hslash hstrange.1 fun path => (h path).mpr
    rw [fits_eq] at hfits
    exact eq_of_ranks_eq (isSome_ownParts hne hp.tailLast) hfits (le_antisymm hle hge)

/-! ## Rejected as ambiguous -/

theorem Registered.eq_of_slot_eq (ht : Registered t) {a b : Entry} (ha : a ∈ t.entries)
    (hb : b ∈ t.entries) (hslot : a.slot = b.slot) : a = b :=
  List.inj_on_of_nodup_map (pairwise_apart_iff.mp ht.apart).1 ha hb hslot

/-- A registration is rejected as ambiguous exactly if nothing comes before that and an entry has
the slot. -/
theorem Registered.register_ambiguous_iff (ht : Registered t) (he : e.pattern.IsParsed)
    {method pattern existing : String} :
    t.register e = .error (.ambiguous method pattern existing) ↔
      t.frozen = false ∧ (∀ l, e.label = some l → ∀ b ∈ t.entries, b.label ≠ some l) ∧
        ∃ b ∈ t.entries, b.slot = e.slot ∧ method = e.method ∧ pattern = e.pattern.text ∧
          existing = b.pattern.text := by
  rcases ht.register_spec he with
    ⟨hok, hacceptable⟩ | ⟨err, herror, -, ⟨hfrozen, rfl⟩ | ⟨hthawed, hobjection⟩⟩
  · rw [hok]
    refine ⟨nofun, ?_⟩
    rintro ⟨-, -, b, hb, hslot, -⟩
    exact absurd (List.mem_map.mpr ⟨b, hb, hslot⟩)
      (hacceptable.slots_free e.slot (List.mem_map_of_mem List.mem_cons_self))
  · rw [herror]
    refine ⟨nofun, ?_⟩
    rintro ⟨hthawed, -⟩
    exact absurd (hfrozen.symm.trans hthawed) Bool.true_eq_false.mp
  · rw [herror]
    cases hobjection with
    | method hmethod =>
      refine ⟨nofun, ?_⟩
      rintro ⟨-, -, b, hb, hslot, -⟩
      have hsame : b.method = e.method := congrArg Prod.fst hslot
      exact absurd (hsame ▸ ht.known b hb) hmethod
    | label hmethod hlabel htaken =>
      refine ⟨nofun, ?_⟩
      rintro ⟨-, hfree, -⟩
      obtain ⟨b, hb, hbl⟩ := htaken
      exact absurd hbl (hfree _ hlabel b (by simpa using hb))
    | slot hmethod hlabel hrival hslot =>
      rw [List.append_nil] at hrival hlabel
      constructor
      · intro h
        cases h
        exact ⟨hthawed, hlabel, _, hrival, hslot, rfl, rfl, rfl⟩
      · rintro ⟨-, -, b, hb, hbslot, rfl, rfl, rfl⟩
        rw [ht.eq_of_slot_eq hb hrival (hbslot.trans hslot.symm)]

theorem slot_eq_iff_matches {a b : Entry} (ha : a.pattern.IsParsed) (hb : b.pattern.IsParsed) :
    a.slot = b.slot ↔ a.method = b.method ∧ ∀ path, a.pattern.Matches path ↔
      b.pattern.Matches path := by
  rw [← shape_eq_iff_matches ha hb]
  exact Prod.ext_iff

/-- Parsed patterns have one shape exactly if they match the same paths. An entry is rejected as
ambiguous with an entry of a reachable table exactly if the two have one method and match the same
paths, unless the table is frozen or the label of the new entry is in use, which is found first; it
is not accepted in either case. -/
theorem ambiguous_iff_same_paths {t : Table} (ht : Reachable t) {e : Entry}
    (he : e.pattern.IsParsed) :
    (∀ p q : Pattern, p.IsParsed → q.IsParsed →
      (p.shape = q.shape ↔ ∀ path, p.Matches path ↔ q.Matches path)) ∧
      (∀ method pattern existing, t.register e = .error (.ambiguous method pattern existing) ↔
        t.frozen = false ∧ (∀ l, e.label = some l → ∀ b ∈ t.entries, b.label ≠ some l) ∧
          ∃ b ∈ t.entries, (b.method = e.method ∧ ∀ path, b.pattern.Matches path ↔
            e.pattern.Matches path) ∧ method = e.method ∧ pattern = e.pattern.text ∧
            existing = b.pattern.text) ∧
      ∀ b ∈ t.entries, b.method = e.method →
        (∀ path, b.pattern.Matches path ↔ e.pattern.Matches path) →
        ∃ err, t.register e = .error err := by
  have hregistered := ht.registered
  refine ⟨fun p q hp hq => shape_eq_iff_matches hp hq, ?_, ?_⟩
  · intro method pattern existing
    rw [hregistered.register_ambiguous_iff he]
    refine and_congr_right fun _ => and_congr_right fun _ => exists_congr fun b =>
      and_congr_right fun hb => ?_
    rw [slot_eq_iff_matches (hregistered.parsed b hb) he]
  · intro b hb hmethod hpaths
    rcases hregistered.register_spec he with ⟨-, hacceptable⟩ | ⟨err, herror, -⟩
    · have hslot := (slot_eq_iff_matches (hregistered.parsed b hb) he).mpr ⟨hmethod, hpaths⟩
      exact absurd (List.mem_map.mpr ⟨b, hb, hslot⟩)
        (hacceptable.slots_free e.slot (List.mem_map_of_mem List.mem_cons_self))
    · exact ⟨err, herror⟩

/-- A route that matches the paths of another route of `itemTable`, under a label of its own, the
same label or none. -/
def rivalItem (label : Option String) : Entry :=
  ⟨"GET", ⟨[.literal "items", .parameter "key"]⟩, "items.read", .anonymous, label⟩

theorem ambiguous_iff_same_paths_rivalItem :
    itemTable.register (rivalItem none) = .error (.ambiguous "GET" "/items/:key" "/items/:id") ∧
      ∃ b ∈ itemTable.entries, b.method = "GET" ∧ ∀ path, b.pattern.Matches path ↔
        (rivalItem none).pattern.Matches path := by
  have hreachable : Reachable itemTable := ⟨_, by simp [Call.IsParsed], rfl⟩
  have hrejected : itemTable.register (rivalItem none) =
      .error (.ambiguous "GET" "/items/:key" "/items/:id") := rfl
  have hparsed : (rivalItem none).pattern.IsParsed := ⟨"/items/:key", rfl⟩
  obtain ⟨-, hambiguous, -⟩ := ambiguous_iff_same_paths hreachable hparsed
  obtain ⟨-, -, b, hb, hsame, -⟩ := (hambiguous _ _ _).mp hrejected
  exact ⟨hrejected, b, hb, hsame⟩

/-- A new entry with the paths of another is not always called ambiguous: if its label is in use as
well, the label is named. -/
theorem not_forall_register_ambiguous_iff :
    ¬ ∀ t e, Reachable t → e.pattern.IsParsed →
      ((∃ method pattern existing, t.register e = .error (.ambiguous method pattern existing)) ↔
        ∃ b ∈ t.entries, b.method = e.method ∧ ∀ path, b.pattern.Matches path ↔
          e.pattern.Matches path) := by
  intro h
  have hreachable : Reachable itemTable := ⟨_, by simp [Call.IsParsed], rfl⟩
  have hparsed : (rivalItem (some "item")).pattern.IsParsed := ⟨"/items/:key", rfl⟩
  let shown : Entry :=
    ⟨"GET", ⟨[.literal "items", .parameter "id"]⟩, "items.show", .anonymous, some "item"⟩
  have hshown : shown ∈ itemTable.entries := by decide
  have hpaths := (shape_eq_iff_matches (hreachable.registered.parsed shown hshown) hparsed).mp rfl
  obtain ⟨method, pattern, existing, hambiguous⟩ :=
    (h itemTable _ hreachable hparsed).mpr ⟨shown, hshown, rfl, hpaths⟩
  have hlabel : itemTable.register (rivalItem (some "item")) = .error (.duplicateLabel "item") :=
    rfl
  rw [hlabel] at hambiguous
  cases hambiguous

end Waypost.Route
