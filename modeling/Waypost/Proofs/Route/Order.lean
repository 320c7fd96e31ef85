import Waypost.Proofs.Route.Batch
import Waypost.Proofs.Route.Precedence

/-!
# The order of registration

Entries may be registered one by one in any order: the same lists are accepted, and the tables give
the same answers.

* `Table.registerEach` : registering entries one by one, which goes through exactly if the entries
  are acceptable together (`Registered.registerEach_eq_ok_iff`);
* `find?_eq_of_perm` : what is there once is found in any order. Hence `precedence_eq_of_perm` and,
  for tables that hold the same entries, `Registered.lookup_eq_of_perm` and
  `Registered.urlFor_eq_of_perm`;
* `registerEach_perm` : the whole.
-/

namespace Waypost.Route

variable {t t' : Table} {e : Entry} {es es' : List Entry}

/-! ## One by one -/

/-- An entry is registered or turned down for a reason. -/
theorem Registered.register_spec (ht : Registered t) (he : e.pattern.IsParsed) :
    (t.register e = .ok (t.insert e) ∧ Acceptable t [e]) ∨
      ∃ err, t.register e = .error err ∧ ¬ Acceptable t [e] ∧
        (t.frozen = true ∧ err = .frozen ∨ t.frozen = false ∧ Objection t [] e err) := by
  rcases ht.registerAll_spec (List.forall_mem_singleton.mpr he) with
    ⟨hok, hacceptable⟩ | ⟨err, herror, hnot, hreason⟩
  · exact Or.inl ⟨hok, hacceptable⟩
  · refine Or.inr ⟨err, herror, hnot, hreason.imp_right ?_⟩
    rintro ⟨es₁, e', es₂, hsplit, hbefore, hobjection⟩
    cases es₁ with
    | nil =>
      rw [List.head_eq_of_cons_eq hsplit]
      exact ⟨hbefore.thawed, hobjection⟩
    | cons b es₁ => simp at hsplit

/-- Registers entries one by one, up to the first that is rejected. -/
def Table.registerEach (t : Table) : List Entry → Except RegisterError Table
  | [] => .ok t
  | e :: es =>
    match t.register e with
    | .error err => .error err
    | .ok t' => t'.registerEach es

theorem Registered.insert_of_acceptable (ht : Registered t) (he : e.pattern.IsParsed)
    (h : Acceptable t [e]) :
    Registered (t.insert e) := by
  obtain ⟨-, hknown, hapart⟩ := ht.acceptable_iff.mp h
  exact ht.insertAll (List.forall_mem_singleton.mpr he) hknown hapart

/-- A batch is acceptable if its first entry is and the rest is to the table that has that entry. -/
theorem Registered.acceptable_cons_iff (ht : Registered t) (he : e.pattern.IsParsed)
    (h : Acceptable t [e]) :
    Acceptable t (e :: es) ↔ Acceptable (t.insert e) es := by
  have hsplit : t.entries ++ e :: es = (t.insert e).entries ++ es := by simp [Table.insert]
  rw [ht.acceptable_iff, (ht.insert_of_acceptable he h).acceptable_iff, hsplit,
    List.forall_mem_cons]
  exact and_congr_right fun _ => and_congr_left fun _ =>
    and_iff_right (h.known e List.mem_cons_self)

theorem Acceptable.head (h : Acceptable t (e :: es)) (ht : Registered t) : Acceptable t [e] := by
  obtain ⟨hthawed, hknown, hapart⟩ := ht.acceptable_iff.mp h
  refine ht.acceptable_iff.mpr
    ⟨hthawed, List.forall_mem_singleton.mpr (hknown e List.mem_cons_self), ?_⟩
  exact hapart.sublist ((List.singleton_sublist.mpr List.mem_cons_self).append_left t.entries)

/-- Entries go through one by one exactly if they do together. -/
theorem Registered.registerEach_eq_ok_iff (ht : Registered t) (hthawed : t.frozen = false)
    (hes : ∀ e ∈ es, e.pattern.IsParsed) :
    t.registerEach es = .ok t' ↔ Acceptable t es ∧ es.foldl Table.insert t = t' := by
  induction es generalizing t with
  | nil =>
    have hacceptable : Acceptable t [] :=
      ht.acceptable_iff.mpr ⟨hthawed, nofun, by simpa using ht.apart⟩
    simp [Table.registerEach, hacceptable]
  | cons e es ih =>
    obtain ⟨he, hes⟩ := List.forall_mem_cons.mp hes
    rw [Table.registerEach]
    rcases ht.register_spec he with ⟨hok, hacceptable⟩ | ⟨err, herror, hnot, -⟩
    · rw [hok, ht.acceptable_cons_iff he hacceptable]
      exact ih (ht.insert_of_acceptable he hacceptable) hthawed hes
    · rw [herror]
      exact ⟨nofun, fun h => absurd (h.1.head ht) hnot⟩

theorem Registered.exists_registerEach_iff (ht : Registered t) (hthawed : t.frozen = false)
    (hes : ∀ e ∈ es, e.pattern.IsParsed) :
    (∃ t', t.registerEach es = .ok t') ↔ Acceptable t es := by
  simp only [ht.registerEach_eq_ok_iff hthawed hes, exists_and_left, exists_eq', and_true]

theorem Registered.registerEach (ht : Registered t) (hthawed : t.frozen = false)
    (hes : ∀ e ∈ es, e.pattern.IsParsed) (h : t.registerEach es = .ok t') :
    Registered t' ∧ t'.entries = t.entries ++ es := by
  obtain ⟨hacceptable, rfl⟩ := (ht.registerEach_eq_ok_iff hthawed hes).mp h
  obtain ⟨-, hknown, hapart⟩ := ht.acceptable_iff.mp hacceptable
  exact ⟨ht.insertAll hes hknown hapart, (entries_insertAll es t).1⟩

theorem Acceptable.perm (h : Acceptable t es) (hperm : es.Perm es') : Acceptable t es' where
  thawed := h.thawed
  known := fun e he => h.known e (hperm.mem_iff.mpr he)
  labels := (hperm.filterMap Entry.label).nodup_iff.mp h.labels
  labels_free := fun l hl => h.labels_free l ((hperm.filterMap Entry.label).mem_iff.mpr hl)
  slots := (hperm.map Entry.slot).nodup_iff.mp h.slots
  slots_free := fun s hs => h.slots_free s ((hperm.map Entry.slot).mem_iff.mpr hs)

/-! ## The same entries in another order -/

/-- What a list has once is found in any order of the list. -/
theorem find?_eq_of_perm {α : Type} {l l' : List α} (hperm : l.Perm l') {p : α → Bool}
    (honce : ∀ a ∈ l, ∀ b ∈ l, p a = true → p b = true → a = b) : l.find? p = l'.find? p := by
  cases h : l.find? p with
  | none =>
    symm
    rw [List.find?_eq_none]
    intro b hb
    exact List.find?_eq_none.mp h b (hperm.mem_iff.mpr hb)
  | some a =>
    have ha := List.mem_of_find?_eq_some h
    cases h' : l'.find? p with
    | none => exact absurd (List.find?_some h) (List.find?_eq_none.mp h' a (hperm.mem_iff.mp ha))
    | some b =>
      have hb := hperm.mem_iff.mpr (List.mem_of_find?_eq_some h')
      rw [honce a ha b hb (List.find?_some h) (List.find?_some h')]

theorem entryAt?_eq_of_perm (hslots : (es.map Entry.slot).Nodup) (hperm : es.Perm es')
    (method : String) (s : List SegmentShape) : entryAt? es method s = entryAt? es' method s := by
  refine find?_eq_of_perm hperm ?_
  intro a ha b hb hsa hsb
  simp only [Bool.and_eq_true, decide_eq_true_eq] at hsa hsb
  exact List.inj_on_of_nodup_map hslots ha hb
    (Prod.ext (hsa.1.trans hsb.1.symm) (hsa.2.trans hsb.2.symm))

theorem rankedShapes_eq_of_perm (hperm : es.Perm es') (parts : List String) :
    rankedShapes es parts = rankedShapes es' parts := by
  refine eq_of_pairwise_of_mem_iff (fun s t hst => lt_asymm hst) (pairwise_rankedShapes es parts)
    (pairwise_rankedShapes es' parts) ?_
  intro s
  simp only [mem_rankedShapes, hperm.mem_iff]

/-- The rule of precedence does not ask for the order of the entries. -/
theorem precedence_eq_of_perm (hslots : (es.map Entry.slot).Nodup) (hperm : es.Perm es')
    (method path : String) :
    precedence es method path = precedence es' method path := by
  have hserved : ∀ method, servedBy? es method = servedBy? es' method := by
    intro method
    funext s
    unfold servedBy?
    rw [entryAt?_eq_of_perm hslots hperm, entryAt?_eq_of_perm hslots hperm]
  have hmatching : ∀ parts, (es.filter fun e => e.pattern.fits parts).Perm
      (es'.filter fun e => e.pattern.fits parts) :=
    fun parts => hperm.filter _
  unfold precedence
  cases pathParts? path with
  | none => rfl
  | some parts =>
    simp only [rankedShapes_eq_of_perm hperm, hserved, (hmatching parts).isEmpty_eq,
      sortedSet_congr fun m => ((hmatching parts).map Entry.method).mem_iff]

theorem Indexed.lookup_eq (ht : Indexed t) (method path : String) :
    t.lookup method path = precedence t.entries method path := by
  unfold Table.lookup
  cases hparts : pathParts? path with
  | none => simp [precedence, hparts]
  | some parts => exact ht.pick_eq_precedence method path hparts

theorem Registered.lookup_eq_of_perm (ht : Registered t) (ht' : Registered t')
    (hperm : t.entries.Perm t'.entries) (method path : String) :
    t.lookup method path = t'.lookup method path := by
  have hslots := (pairwise_apart_iff.mp ht.apart).1
  rw [ht.toIndexed.lookup_eq, ht'.toIndexed.lookup_eq, precedence_eq_of_perm hslots hperm]

theorem Registered.urlFor_eq_of_perm (ht : Registered t) (ht' : Registered t')
    (hperm : t.entries.Perm t'.entries) (label : String) (args : Arguments) :
    t.urlFor label args = t'.urlFor label args := by
  have hlabel : Keyed.get? label t.labels = Keyed.get? label t'.labels := by
    rw [ht.labels, ht'.labels]
    refine find?_eq_of_perm hperm ?_
    intro a ha b hb hla hlb
    simp only [decide_eq_true_eq] at hla hlb
    exact Option.some.inj ((ht.get?_label ha hla).symm.trans (ht.get?_label hb hlb))
  unfold Table.urlFor
  rw [hlabel]

/-- Entries with parsed patterns are accepted one by one in every order or in none, and the tables
that come of it answer every method and path, and every label, in the same way. -/
theorem registerEach_perm {es es' : List Entry} (hes : ∀ e ∈ es, e.pattern.IsParsed)
    (hperm : es.Perm es') :
    ((∃ t, Table.empty.registerEach es = .ok t) ↔ ∃ t', Table.empty.registerEach es' = .ok t') ∧
      ∀ t t', Table.empty.registerEach es = .ok t → Table.empty.registerEach es' = .ok t' →
        (∀ method path, t.lookup method path = t'.lookup method path) ∧
          ∀ label args, t.urlFor label args = t'.urlFor label args := by
  have hes' : ∀ e ∈ es', e.pattern.IsParsed := fun e he => hes e (hperm.mem_iff.mpr he)
  refine ⟨?_, ?_⟩
  · rw [registered_empty.exists_registerEach_iff rfl hes,
      registered_empty.exists_registerEach_iff rfl hes']
    exact ⟨fun h => h.perm hperm, fun h => h.perm hperm.symm⟩
  · intro t t' ht ht'
    obtain ⟨hregistered, hentries⟩ := registered_empty.registerEach rfl hes ht
    obtain ⟨hregistered', hentries'⟩ := registered_empty.registerEach rfl hes' ht'
    have hsame : t.entries.Perm t'.entries := by
      rw [hentries, hentries']
      exact hperm.append_left _
    exact ⟨hregistered.lookup_eq_of_perm hregistered' hsame,
      hregistered.urlFor_eq_of_perm hregistered' hsame⟩

/-- Routes that share a parameter under different names, and one that is more specific. -/
def sharedRoutes : List Entry :=
  [⟨"GET", ⟨[.literal "items", .parameter "id"]⟩, "items.show", .anonymous, some "item"⟩,
    ⟨"PUT", ⟨[.literal "items", .parameter "key"]⟩, "items.put", .elevated, none⟩,
    ⟨"GET", ⟨[.literal "items", .literal "new"]⟩, "items.form", .authenticated, some "form"⟩]

theorem registerEach_perm_sharedRoutes :
    ∃ t t', Table.empty.registerEach sharedRoutes = .ok t ∧
      Table.empty.registerEach sharedRoutes.reverse = .ok t' ∧
      (∀ method path, t.lookup method path = t'.lookup method path) ∧
        ∀ label args, t.urlFor label args = t'.urlFor label args := by
  have hparsed : ∀ e ∈ sharedRoutes, e.pattern.IsParsed := by
    intro e he
    simp only [sharedRoutes, List.mem_cons, List.not_mem_nil, or_false] at he
    rcases he with rfl | rfl | rfl
    · exact ⟨"/items/:id", rfl⟩
    · exact ⟨"/items/:key", rfl⟩
    · exact ⟨"/items/new", rfl⟩
  obtain ⟨hboth, hsame⟩ := registerEach_perm hparsed sharedRoutes.reverse_perm.symm
  obtain ⟨t, ht⟩ : ∃ t, Table.empty.registerEach sharedRoutes = .ok t := ⟨_, rfl⟩
  obtain ⟨t', ht'⟩ := hboth.mp ⟨t, ht⟩
  exact ⟨t, t', ht, ht', hsame t t' ht ht'⟩

end Waypost.Route
