import Waypost.Proofs.Route.Ambiguity

/-!
# The methods that are allowed on a path

The search for an entry ends early if the method is served, and otherwise it comes to all that match
the path and gathers their methods. These are the same for every method that is turned away, and no
method that they serve is.

* `Entry.Serves` : an entry serves a method; `exists_serves_iff` : which methods the entries of a
  list serve;
* `findSome?_servedBy?_eq_none_iff` : the rule of precedence finds nothing exactly if no entry that
  matches serves the method;
* `matching` : the entries that match a path;
* `Indexed.lookup_spec` : what a table answers, in terms of the entries that match;
* `Indexed.lookup_eq_noRoute_iff` : a path has no route exactly if nothing matches it;
* `allowed_sound_complete` : the whole.
-/

namespace Waypost.Route

open Text

variable {t : Table} {es : List Entry} {method path : String}

/-! ## Serving a method -/

/-- An entry serves its own method, and one for `GET` serves `HEAD` too. -/
def Entry.Serves (e : Entry) (method : String) : Prop :=
  e.method = method ∨ method = "HEAD" ∧ e.method = "GET"

theorem exists_serves_iff :
    (∃ e ∈ es, e.Serves method) ↔
      method ∈ es.map Entry.method ∨ method = "HEAD" ∧ "GET" ∈ es.map Entry.method := by
  simp only [Entry.Serves, List.mem_map]
  constructor
  · rintro ⟨e, he, hown | ⟨hhead, hget⟩⟩
    · exact Or.inl ⟨e, he, hown⟩
    · exact Or.inr ⟨hhead, e, he, hget⟩
  · rintro (⟨e, he, hown⟩ | ⟨hhead, e, he, hget⟩)
    · exact ⟨e, he, Or.inl hown⟩
    · exact ⟨e, he, Or.inr ⟨hhead, hget⟩⟩

theorem entryAt?_eq_none_iff {s : List SegmentShape} :
    entryAt? es method s = none ↔ ∀ e ∈ es, e.pattern.shape = s → e.method ≠ method := by
  unfold entryAt?
  rw [List.find?_eq_none]
  refine forall₂_congr fun e _ => ?_
  simp only [Bool.and_eq_true, decide_eq_true_eq, not_and]
  exact ⟨fun h hshape hmethod => h hmethod hshape, fun h hmethod hshape => h hshape hmethod⟩

theorem servedBy?_eq_none_iff {s : List SegmentShape} :
    servedBy? es method s = none ↔ ∀ e ∈ es, e.pattern.shape = s → ¬ e.Serves method := by
  unfold servedBy? Entry.Serves
  rw [Option.or_eq_none_iff, entryAt?_eq_none_iff]
  by_cases hhead : method = "HEAD"
  · rw [if_pos hhead, entryAt?_eq_none_iff]
    constructor
    · rintro ⟨hown, hget⟩ e he hshape (hmethod | ⟨-, hmethod⟩)
      · exact hown e he hshape hmethod
      · exact hget e he hshape hmethod
    · intro h
      constructor
      · intro e he hshape hmethod
        exact h e he hshape (Or.inl hmethod)
      · intro e he hshape hmethod
        exact h e he hshape (Or.inr ⟨hhead, hmethod⟩)
  · rw [if_neg hhead]
    simp [hhead]

/-- No shape that matches has an entry for a method exactly if no entry that matches serves it. -/
theorem findSome?_servedBy?_eq_none_iff {parts : List String} :
    (rankedShapes es parts).findSome? (servedBy? es method) = none ↔
      ¬ ∃ e ∈ es.filter fun e => e.pattern.fits parts, e.Serves method := by
  rw [List.findSome?_eq_none_iff]
  constructor
  · rintro h ⟨e, he, hserves⟩
    obtain ⟨hmem, hfits⟩ := List.mem_filter.mp he
    have hshape : e.pattern.shape ∈ rankedShapes es parts :=
      mem_rankedShapes.mpr ⟨e, hmem, hfits, rfl⟩
    exact servedBy?_eq_none_iff.mp (h _ hshape) e hmem rfl hserves
  · intro h s hs
    obtain ⟨b, -, hfits, rfl⟩ := mem_rankedShapes.mp hs
    refine servedBy?_eq_none_iff.mpr ?_
    intro e he hshape hserves
    -- Whether a pattern matches is a matter of its shape.
    have hfits' : e.pattern.fits parts := by
      rw [fits_eq, hshape, ← fits_eq]
      exact hfits
    exact h ⟨e, List.mem_filter.mpr ⟨he, hfits'⟩, hserves⟩

/-! ## What matches a path -/

/-- The entries that match a path. -/
def matching (es : List Entry) (path : String) : List Entry :=
  match pathParts? path with
  | none => []
  | some parts => es.filter fun e => e.pattern.fits parts

theorem mem_matching (hparsed : ∀ e ∈ es, e.pattern.IsParsed) {e : Entry} :
    e ∈ matching es path ↔ e ∈ es ∧ e.pattern.Matches path := by
  rw [and_congr_right fun he => (hparsed e he).matches_iff]
  unfold matching
  cases pathParts? path with
  | none => simp
  | some parts => simp

/-- A method that an entry that matches the path serves is matched, and any other is answered with
the methods of all that match. -/
theorem Indexed.lookup_spec (ht : Indexed t) (method path : String) :
    ((∃ e ∈ matching t.entries path, e.Serves (upper method)) ∧
        ∃ e bound, t.lookup method path = .matched e bound) ∨
      ((¬ ∃ e ∈ matching t.entries path, e.Serves (upper method)) ∧
        t.lookup method path =
          if matching t.entries path = [] then .noRoute path
          else
            .methodNotAllowed path (sortedSet ((matching t.entries path).map Entry.method))) := by
  rw [ht.lookup_eq]
  unfold precedence matching
  cases pathParts? path with
  | none =>
    right
    simp
  | some parts =>
    dsimp only
    cases hserved : (rankedShapes t.entries parts).findSome?
      (servedBy? t.entries (upper method)) with
    | some e =>
      left
      refine ⟨?_, e, _, rfl⟩
      by_contra hnot
      rw [findSome?_servedBy?_eq_none_iff.mpr hnot] at hserved
      cases hserved
    | none =>
      right
      refine ⟨findSome?_servedBy?_eq_none_iff.mp hserved, ?_⟩
      simp only [List.isEmpty_iff]

theorem Indexed.lookup_eq_noRoute_iff (ht : Indexed t) (method path : String) :
    (∃ p, t.lookup method path = .noRoute p) ↔ matching t.entries path = [] := by
  rcases ht.lookup_spec method path with ⟨⟨b, hb, -⟩, e, bound, hmatched⟩ | ⟨-, hanswer⟩
  · rw [hmatched]
    exact ⟨nofun, fun hempty => absurd hb (hempty ▸ List.not_mem_nil)⟩
  · rw [hanswer]
    split_ifs with hempty
    · exact ⟨fun _ => hempty, fun _ => ⟨path, rfl⟩⟩
    · exact ⟨nofun, fun h => absurd h hempty⟩

/-- A method that is turned away is told the methods of all entries that match the path. -/
theorem Indexed.of_lookup_eq_methodNotAllowed (ht : Indexed t) {p : String} {allowed : List String}
    (h : t.lookup method path = .methodNotAllowed p allowed) :
    matching t.entries path ≠ [] ∧ p = path ∧
      allowed = sortedSet ((matching t.entries path).map Entry.method) := by
  rcases ht.lookup_spec method path with ⟨-, e, bound, hmatched⟩ | ⟨-, hanswer⟩
  · rw [hmatched] at h
    cases h
  · rw [hanswer] at h
    split_ifs at h with hempty
    obtain ⟨hpath, hallowed⟩ := Outcome.methodNotAllowed.inj h
    exact ⟨hempty, hpath.symm, hallowed.symm⟩

/-- Whether a path has no route is the same for every method. If a method is turned away, the
methods that are said to be allowed are those of the entries that match the path; a method is
matched exactly if these serve it, and every other is turned away with the same ones. -/
theorem allowed_sound_complete (ht : Reachable t) (path : String) :
    (∀ m m', (∃ p, t.lookup m path = .noRoute p) ↔ ∃ p, t.lookup m' path = .noRoute p) ∧
      ∀ m₀ p allowed, t.lookup m₀ path = .methodNotAllowed p allowed →
        p = path ∧ (∀ s, s ∈ allowed ↔ ∃ e ∈ t.entries, e.method = s ∧ e.pattern.Matches path) ∧
          ∀ m, ((∃ e bound, t.lookup m path = .matched e bound) ↔
              upper m ∈ allowed ∨ upper m = "HEAD" ∧ "GET" ∈ allowed) ∧
            ((¬ ∃ e bound, t.lookup m path = .matched e bound) →
              t.lookup m path = .methodNotAllowed path allowed) := by
  have hindexed := ht.indexed
  refine ⟨fun m m' => ?_, fun m₀ p allowed hturned => ?_⟩
  · rw [hindexed.lookup_eq_noRoute_iff, hindexed.lookup_eq_noRoute_iff]
  obtain ⟨hne, rfl, rfl⟩ := hindexed.of_lookup_eq_methodNotAllowed hturned
  refine ⟨rfl, fun s => ?_, fun m => ?_⟩
  · rw [mem_sortedSet, List.mem_map]
    simp only [mem_matching ht.registered.parsed]
    constructor
    · rintro ⟨e, ⟨he, hmatches⟩, rfl⟩
      exact ⟨e, he, rfl, hmatches⟩
    · rintro ⟨e, he, rfl, hmatches⟩
      exact ⟨e, ⟨he, hmatches⟩, rfl⟩
  · simp only [mem_sortedSet, ← exists_serves_iff]
    rcases hindexed.lookup_spec m p with ⟨hserves, hmatched⟩ | ⟨hnot, hanswer⟩
    · exact ⟨⟨fun _ => hserves, fun _ => hmatched⟩, fun h => absurd hmatched h⟩
    · rw [if_neg hne] at hanswer
      refine ⟨⟨?_, fun hserves => absurd hserves hnot⟩, fun _ => hanswer⟩
      rintro ⟨e, bound, hmatched⟩
      rw [hanswer] at hmatched
      cases hmatched

/-- Routes that match one path by their literals, by a parameter and by a tail, each with methods of
its own. -/
def layeredTable : Table :=
  [Call.add "get" "/items/new" "items.form" .anonymous none,
    .add "PUT" "/items/:id" "items.put" .elevated none,
    .add "GET" "/items/:key" "items.show" .anonymous none,
    .add "DELETE" "/items/*rest" "items.purge" .authenticated none,
    .freeze].foldl Table.perform .empty

theorem allowed_sound_complete_layered :
    layeredTable.lookup "POST" "/items/new" =
      .methodNotAllowed "/items/new" ["DELETE", "GET", "PUT"] ∧
      (∃ e bound, layeredTable.lookup "head" "/items/new" = .matched e bound) ∧
      (∃ e bound, layeredTable.lookup "DELETE" "/items/new" = .matched e bound) ∧
      layeredTable.lookup "PATCH" "/items/new" =
        .methodNotAllowed "/items/new" ["DELETE", "GET", "PUT"] := by
  have hreachable : Reachable layeredTable := ⟨_, by simp [Call.IsParsed], rfl⟩
  have hturned : layeredTable.lookup "POST" "/items/new" =
      .methodNotAllowed "/items/new" ["DELETE", "GET", "PUT"] := by
    decide
  obtain ⟨-, hboth⟩ := allowed_sound_complete hreachable "/items/new"
  obtain ⟨-, -, hmethods⟩ := hboth _ _ _ hturned
  refine ⟨hturned, (hmethods "head").1.mpr (Or.inr (by decide)),
    (hmethods "DELETE").1.mpr (Or.inl (by decide)), ?_⟩
  refine (hmethods "PATCH").2 fun hmatched => ?_
  have hserved := (hmethods "PATCH").1.mp hmatched
  revert hserved
  decide

end Waypost.Route
