import Mathlib.Data.List.Nodup
import Waypost.Proofs.Route.Registration

/-!
# Registering a batch

A batch is registered whole or not at all, and it is turned down for no other reason than one that
its error names.

* `Apart` : two entries that one table may have, with different slots and no label in common;
* `Registered t` : what registrations keep: besides the index of shapes, the labels of `t` lead to
  their entries, and no two entries are not apart (`Reachable.registered`);
* `Acceptable t es`, `Objection t before e err` : what a table asks of a batch, and what an error
  says against an entry;
* `enroll` : the registration as it goes on in one table, which stays as it is where the
  registration ends early (`run_enroll`);
* `registerAll_all_or_nothing` : the whole.
-/

namespace Waypost.Route

/-! ## Entries that stand apart -/

/-- Two entries that one table may have: they have different slots and no label in common. -/
def Apart (a b : Entry) : Prop :=
  a.slot ≠ b.slot ∧ ∀ l, a.label = some l → b.label ≠ some l

/-- Entries are apart exactly if no slot and no label occurs twice. -/
theorem pairwise_apart_iff {es : List Entry} :
    es.Pairwise Apart ↔ (es.map Entry.slot).Nodup ∧ (es.filterMap Entry.label).Nodup := by
  unfold List.Nodup
  rw [List.pairwise_map, List.pairwise_filterMap, ← List.pairwise_and_iff]
  refine List.Pairwise.iff ?_
  intro a b
  refine and_congr_right fun _ => ⟨?_, ?_⟩
  · rintro h l ha l' hb rfl
    exact h l ha hb
  · intro h l ha hb
    exact h l ha l hb rfl

/-! ## What registrations keep -/

/-- The trie and the labels of a table are indices of its entries, which have known methods and
parsed patterns and are apart from one another. -/
structure Registered (t : Table) : Prop extends Indexed t where
  parsed : ∀ e ∈ t.entries, e.pattern.IsParsed
  known : ∀ e ∈ t.entries, e.method ∈ methods
  apart : t.entries.Pairwise Apart
  labels : ∀ l, Keyed.get? l t.labels = t.entries.find? fun e => decide (e.label = some l)

theorem registered_empty : Registered .empty where
  toIndexed := indexed_empty
  parsed := by simp [Table.empty]
  known := by simp [Table.empty]
  apart := List.Pairwise.nil
  labels := fun _ => rfl

theorem Registered.get?_label {t : Table} (ht : Registered t) {e : Entry} (he : e ∈ t.entries)
    {l : String} (hl : e.label = some l) : Keyed.get? l t.labels = some e := by
  obtain ⟨before, after, hsplit⟩ := List.append_of_mem he
  have hbefore : ∀ b ∈ before, b.label ≠ some l := by
    intro b hb hbl
    have hapart := ht.apart
    rw [hsplit] at hapart
    exact ((List.pairwise_append.mp hapart).2.2 b hb e List.mem_cons_self).2 l hbl hl
  rw [ht.labels, hsplit, List.find?_append, List.find?_eq_none.mpr (by simpa using hbefore)]
  simp [hl]

theorem Registered.has_label_iff {t : Table} (ht : Registered t) {l : String} :
    Keyed.has l t.labels ↔ ∃ b ∈ t.entries, b.label = some l := by
  rw [Keyed.has, ht.labels, List.find?_isSome]
  simp

/-- Inserting an entry that is apart from all others keeps the indices. -/
theorem Registered.insert {t : Table} (ht : Registered t) {e : Entry} (hparsed : e.pattern.IsParsed)
    (hmethod : e.method ∈ methods) (hnew : ∀ b ∈ t.entries, Apart b e) :
    Registered (t.insert e) where
  toIndexed := ht.toIndexed.insert hparsed.tailLast fun b hb => (hnew b hb).1
  parsed := by
    intro b hb
    rcases List.mem_append.mp hb with hb | hb
    · exact ht.parsed b hb
    · rw [List.mem_singleton.mp hb]
      exact hparsed
  known := by
    intro b hb
    rcases List.mem_append.mp hb with hb | hb
    · exact ht.known b hb
    · rw [List.mem_singleton.mp hb]
      exact hmethod
  apart := pairwise_concat ht.apart hnew
  labels := by
    intro l
    dsimp only [Table.insert]
    rw [List.find?_append, ← ht.labels]
    cases hlabel : e.label with
    | none => simp [hlabel]
    | some l' =>
      dsimp only
      by_cases hl : l' = l
      · subst hl
        have hfree : Keyed.get? l' t.labels = none := by
          rw [ht.labels, List.find?_eq_none]
          intro b hb hbl
          exact (hnew b hb).2 l' (by simpa using hbl) hlabel
        rw [Keyed.get?_put_self, hfree]
        simp [hlabel]
      · rw [Keyed.get?_put_of_ne hl]
        simp [hlabel, hl]

theorem entries_insertAll (es : List Entry) (t : Table) :
    (es.foldl Table.insert t).entries = t.entries ++ es ∧
      (es.foldl Table.insert t).frozen = t.frozen := by
  induction es generalizing t with
  | nil => exact ⟨(List.append_nil _).symm, rfl⟩
  | cons e es ih =>
    obtain ⟨hentries, hfrozen⟩ := ih (t.insert e)
    exact ⟨by rw [List.foldl_cons, hentries]; simp [Table.insert], hfrozen⟩

theorem Registered.insertAll {t : Table} (ht : Registered t) {es : List Entry}
    (hparsed : ∀ e ∈ es, e.pattern.IsParsed) (hmethods : ∀ e ∈ es, e.method ∈ methods)
    (hapart : (t.entries ++ es).Pairwise Apart) :
    Registered (es.foldl Table.insert t) := by
  induction es generalizing t with
  | nil => exact ht
  | cons e es ih =>
    have hnew : ∀ b ∈ t.entries, Apart b e := fun b hb =>
      (List.pairwise_append.mp hapart).2.2 b hb e List.mem_cons_self
    have hsplit : t.entries ++ e :: es = (t.insert e).entries ++ es := by simp [Table.insert]
    rw [hsplit] at hapart
    exact ih (ht.insert (hparsed e List.mem_cons_self) (hmethods e List.mem_cons_self) hnew)
      (fun b hb => hparsed b (List.mem_cons_of_mem e hb))
      (fun b hb => hmethods b (List.mem_cons_of_mem e hb)) hapart

/-! ## The check of a batch -/

/-- What an error says against an entry that comes after the entries `before` of its batch. The
first thing that is wrong counts. -/
inductive Objection (t : Table) (before : List Entry) (e : Entry) : RegisterError → Prop where
  | method (hmethod : e.method ∉ methods) :
      Objection t before e (.invalid e.pattern.text (.unknownMethod e.method))
  | label {l : String} (hmethod : e.method ∈ methods) (hlabel : e.label = some l)
      (htaken : ∃ b ∈ t.entries ++ before, b.label = some l) :
      Objection t before e (.duplicateLabel l)
  | slot {r : Entry} (hmethod : e.method ∈ methods)
      (hlabel : ∀ l, e.label = some l → ∀ b ∈ t.entries ++ before, b.label ≠ some l)
      (hrival : r ∈ t.entries ++ before) (hslot : r.slot = e.slot) :
      Objection t before e (.ambiguous e.method e.pattern.text r.pattern.text)

variable {t : Table} {e : Entry}

/-- An entry passes its check if its method is known and it is apart from all before it; otherwise
there is an objection. -/
theorem Registered.checkEntry_spec (ht : Registered t) (before : List Entry)
    (he : TailLast e.pattern.shape) :
    (t.checkEntry before e = .ok () ∧ e.method ∈ methods ∧ ∀ b ∈ t.entries ++ before, Apart b e) ∨
      ∃ err, t.checkEntry before e = .error err ∧ Objection t before e err := by
  obtain ⟨hrival, hfree⟩ := ht.toIndexed.rival?_spec before he
  have hin_use : ∀ l, (Keyed.has l t.labels || before.any fun b => decide (b.label = some l)) =
      true ↔ ∃ b ∈ t.entries ++ before, b.label = some l := by
    intro l
    rw [Bool.or_eq_true, ht.has_label_iff]
    simp [or_and_right, exists_or]
  unfold Table.checkEntry
  by_cases hmethod : e.method ∈ methods
  · rw [if_neg (by simpa using hmethod)]
    dsimp only
    split
    · next l htaken =>
      split at htaken
      · cases htaken
      · next l' hlabel =>
        split_ifs at htaken with hused
        obtain rfl := Option.some.inj htaken
        exact Or.inr ⟨_, rfl, .label hmethod hlabel ((hin_use l').mp hused)⟩
    · next htaken =>
      have hlabel : ∀ l, e.label = some l → ∀ b ∈ t.entries ++ before, b.label ≠ some l := by
        intro l hl b hb hbl
        rw [hl] at htaken
        simp [(hin_use l).mpr ⟨b, hb, hbl⟩] at htaken
      cases h : t.rival? before e with
      | some r => exact Or.inr ⟨_, rfl, .slot hmethod hlabel (hrival r h).1 (hrival r h).2⟩
      | none =>
        exact Or.inl ⟨rfl, hmethod, fun b hb =>
          ⟨hfree h b hb, fun l hbl hel => hlabel l hel b hb hbl⟩⟩
  · rw [if_pos (by simpa using hmethod)]
    exact Or.inr ⟨_, rfl, .method hmethod⟩

/-- An objection is right: the entry has an unknown method or is not apart from one before it. -/
theorem Objection.not_apart {before : List Entry} {err : RegisterError}
    (h : Objection t before e err) :
    ¬ (e.method ∈ methods ∧ ∀ b ∈ t.entries ++ before, Apart b e) := by
  rintro ⟨hmethod, hapart⟩
  cases h with
  | method h => exact h hmethod
  | label _ hlabel htaken =>
    obtain ⟨b, hb, hbl⟩ := htaken
    exact (hapart b hb).2 _ hbl hlabel
  | slot _ _ hrival hslot => exact (hapart _ hrival).1 hslot

/-- A batch passes its check if its methods are known and all entries are apart; otherwise there is
an objection to one of its entries, and none to those before it. -/
theorem Registered.checkAll_spec (ht : Registered t) (before : List Entry) {es : List Entry}
    (hes : ∀ e ∈ es, TailLast e.pattern.shape) (hbefore : (t.entries ++ before).Pairwise Apart) :
    (t.checkAll before es = .ok () ∧ (∀ e ∈ es, e.method ∈ methods) ∧
      (t.entries ++ before ++ es).Pairwise Apart) ∨ ∃ es₁ e es₂ err, es = es₁ ++ e :: es₂ ∧
      t.checkAll before es = .error err ∧ (∀ e ∈ es₁, e.method ∈ methods) ∧
        (t.entries ++ (before ++ es₁)).Pairwise Apart ∧ Objection t (before ++ es₁) e err := by
  induction es generalizing before with
  | nil => exact Or.inl ⟨rfl, by simp, by simpa using hbefore⟩
  | cons e es ih =>
    unfold Table.checkAll
    rcases ht.checkEntry_spec before (hes e List.mem_cons_self) with
      ⟨hcheck, hmethod, hapart⟩ | ⟨err, hcheck, hobjection⟩
    · rw [hcheck]
      have hnext : (t.entries ++ (before ++ [e])).Pairwise Apart := by
        rw [← List.append_assoc]
        exact pairwise_concat hbefore hapart
      rcases ih (before ++ [e]) (fun b hb => hes b (List.mem_cons_of_mem e hb)) hnext with
        ⟨hall, hmethods, hpairwise⟩ |
          ⟨es₁, e', es₂, err, rfl, hall, hmethods, hpairwise, hobjection⟩
      · exact Or.inl ⟨hall, List.forall_mem_cons.mpr ⟨hmethod, hmethods⟩, by simpa using hpairwise⟩
      · refine Or.inr ⟨e :: es₁, e', es₂, err, rfl, hall,
          List.forall_mem_cons.mpr ⟨hmethod, hmethods⟩, ?_, ?_⟩
        · simpa using hpairwise
        · simpa using hobjection
    · rw [hcheck]
      exact Or.inr ⟨[], e, es, err, rfl, rfl,
        by simp, by simpa using hbefore, by simpa using hobjection⟩

/-! ## Reachable tables -/

theorem Registered.attempt (ht : Registered t) {es : List Entry}
    (hes : ∀ e ∈ es, e.pattern.IsParsed) :
    Registered (t.attempt es) := by
  unfold Table.attempt Table.registerAll
  split_ifs
  · exact ht
  · rcases ht.checkAll_spec [] (fun e he => (hes e he).tailLast) (by simpa using ht.apart) with
      ⟨hcheck, hknown, hapart⟩ | ⟨_, _, _, _, _, hcheck, _⟩
    · rw [hcheck]
      exact ht.insertAll hes hknown (by simpa using hapart)
    · rw [hcheck]
      exact ht

theorem Registered.perform (ht : Registered t) {c : Call} (hc : c.IsParsed) :
    Registered (t.perform c) := by
  cases c with
  | add method path handlerId level label =>
    cases h : Pattern.parse path with
    | error flaw => simpa [Table.perform, Table.parseEntry, h] using ht
    | ok p =>
      simp only [Table.perform, Table.parseEntry, h]
      exact ht.attempt (List.forall_mem_singleton.mpr ⟨path, h⟩)
  | register e => exact ht.attempt (List.forall_mem_singleton.mpr hc)
  | registerAll es => exact ht.attempt hc
  | freeze => exact ⟨ht.toIndexed.perform hc, ht.parsed, ht.known, ht.apart, ht.labels⟩

theorem Reachable.registered (h : Reachable t) : Registered t := by
  obtain ⟨calls, hcalls, rfl⟩ := h
  exact List.foldlRecOn calls Table.perform registered_empty fun t ht c hc =>
    ht.perform (hcalls c hc)

/-! ## Registration in one table -/

/-- Checks entries in order, `before` being those of the batch that have been checked. -/
def checkEach (before : List Entry) : List Entry → ExceptT RegisterError (StateM Table) Unit
  | [] => pure ()
  | e :: es => do
    match (← get).checkEntry before e with
    | .error err => throw err
    | .ok () => checkEach (before ++ [e]) es

def insertEach : List Entry → ExceptT RegisterError (StateM Table) Unit
  | [] => pure ()
  | e :: es => do
    modify fun t => t.insert e
    insertEach es

/-- The registration of a batch as it goes on in one table: what has been put in by the time it ends
is in the table, also if it ends with an error. -/
def enroll (es : List Entry) : ExceptT RegisterError (StateM Table) Unit := do
  if (← get).frozen then throw .frozen
  checkEach [] es
  insertEach es

theorem run_get_bind {β : Type} (f : Table → ExceptT RegisterError (StateM Table) β) (t : Table) :
    (get >>= f).run.run t = (f t).run.run t := rfl

/-- What comes after a step begins in the table that the step leaves, unless the step ends with an
error. -/
theorem run_bind {β γ : Type} (x : ExceptT RegisterError (StateM Table) β)
    (f : β → ExceptT RegisterError (StateM Table) γ) (t : Table) :
    (x >>= f).run.run t =
      match x.run.run t with
      | (.error err, t') => (.error err, t')
      | (.ok a, t') => (f a).run.run t' := by
  simp only [ExceptT.run_bind, StateT.run_bind]
  rcases x.run.run t with ⟨err | a, t'⟩
  · rfl
  · rfl

theorem run_checkEach (t : Table) (before es : List Entry) :
    (checkEach before es).run.run t = (t.checkAll before es, t) := by
  induction es generalizing before with
  | nil => rfl
  | cons e es ih =>
    unfold checkEach Table.checkAll
    rw [run_get_bind]
    cases t.checkEntry before e with
    | error err => rfl
    | ok u => exact ih (before ++ [e])

theorem run_insertEach (t : Table) (es : List Entry) :
    (insertEach es).run.run t = (.ok (), es.foldl Table.insert t) := by
  induction es generalizing t with
  | nil => rfl
  | cons e es ih => exact ih (t.insert e)

/-- In one table, a registration that ends with an error leaves the table as it was. -/
theorem run_enroll (t : Table) (es : List Entry) :
    (enroll es).run.run t =
      match t.registerAll es with
      | .error err => (.error err, t)
      | .ok t' => (.ok (), t') := by
  unfold enroll Table.registerAll
  rw [run_get_bind]
  split_ifs
  · rfl
  · dsimp only
    rw [run_bind, run_checkEach]
    cases t.checkAll [] es with
    | error err => rfl
    | ok u => exact run_insertEach t es

/-! ## All or nothing -/

/-- What a table asks of a batch: it still takes entries, the methods are known, and no label and no
slot of the batch occurs in it twice or in the table already. -/
structure Acceptable (t : Table) (es : List Entry) : Prop where
  thawed : t.frozen = false
  known : ∀ e ∈ es, e.method ∈ methods
  labels : (es.filterMap Entry.label).Nodup
  labels_free : ∀ l ∈ es.filterMap Entry.label, l ∉ t.entries.filterMap Entry.label
  slots : (es.map Entry.slot).Nodup
  slots_free : ∀ s ∈ es.map Entry.slot, s ∉ t.entries.map Entry.slot

theorem Registered.acceptable_iff (ht : Registered t) {es : List Entry} :
    Acceptable t es ↔
      t.frozen = false ∧ (∀ e ∈ es, e.method ∈ methods) ∧ (t.entries ++ es).Pairwise Apart := by
  obtain ⟨hslots, hlabels⟩ := pairwise_apart_iff.mp ht.apart
  rw [pairwise_apart_iff, List.map_append, List.filterMap_append, List.nodup_append,
    List.nodup_append]
  constructor
  · rintro ⟨hthawed, hknown, hlabels', hlabels_free, hslots', hslots_free⟩
    refine ⟨hthawed, hknown, ⟨hslots, hslots', ?_⟩, hlabels, hlabels', ?_⟩
    · rintro s hs s' hs' rfl
      exact hslots_free s hs' hs
    · rintro l hl l' hl' rfl
      exact hlabels_free l hl' hl
  · rintro ⟨hthawed, hknown, ⟨-, hslots', hslots_free⟩, -, hlabels', hlabels_free⟩
    exact ⟨hthawed, hknown, hlabels', fun l hl hl' => hlabels_free l hl' l hl rfl, hslots',
      fun s hs hs' => hslots_free s hs' s hs rfl⟩

/-- A registration is accepted as a whole or turned down for a reason. -/
theorem Registered.registerAll_spec (ht : Registered t) {es : List Entry}
    (hes : ∀ e ∈ es, e.pattern.IsParsed) :
    (t.registerAll es = .ok (es.foldl Table.insert t) ∧ Acceptable t es) ∨
      ∃ err, t.registerAll es = .error err ∧ ¬ Acceptable t es ∧
        (t.frozen = true ∧ err = .frozen ∨
          ∃ es₁ e es₂, es = es₁ ++ e :: es₂ ∧ Acceptable t es₁ ∧ Objection t es₁ e err) := by
  unfold Table.registerAll
  split_ifs with hfrozen
  · exact Or.inr ⟨.frozen, rfl, fun h => absurd hfrozen (by simp [h.thawed]), Or.inl ⟨hfrozen, rfl⟩⟩
  · have hthawed : t.frozen = false := by simpa using hfrozen
    rcases ht.checkAll_spec [] (fun e he => (hes e he).tailLast) (by simpa using ht.apart) with
      ⟨hcheck, hknown, hapart⟩ | ⟨es₁, e, es₂, err, rfl, hcheck, hknown, hapart, hobjection⟩
    · rw [hcheck]
      exact Or.inl ⟨rfl, ht.acceptable_iff.mpr ⟨hthawed, hknown, by simpa using hapart⟩⟩
    · rw [hcheck]
      have hbefore : Acceptable t es₁ :=
        ht.acceptable_iff.mpr ⟨hthawed, hknown, by simpa using hapart⟩
      refine Or.inr ⟨err, rfl, ?_, Or.inr ⟨es₁, e, es₂, rfl, hbefore, by simpa using hobjection⟩⟩
      intro h
      obtain ⟨-, hknown', hapart'⟩ := ht.acceptable_iff.mp h
      rw [← List.append_assoc] at hapart'
      refine hobjection.not_apart ⟨hknown' e (by simp), ?_⟩
      intro b hb
      exact (List.pairwise_append.mp hapart').2.2 b (by simpa using hb) e List.mem_cons_self

theorem urlFor_of_label {l : String} (h : Keyed.get? l t.labels = some e) {args : Arguments}
    (hargs : args.firstReserved? ["self", "label"] = none) :
    t.urlFor l args = (e.pattern.fill args).mapError .fill := by
  unfold Table.urlFor
  rw [hargs, h]
  dsimp only
  cases e.pattern.fill args <;> rfl

/-- A reachable table takes a batch exactly if the batch is acceptable. It then has the entries of
the batch after its own, and every label leads to its entry. A batch that it does not take leaves it
as it was, although the registration works on the table itself, and the error is a right objection
to the first entry that is not acceptable. So no two entries of a reachable table have one slot or
one label. -/
theorem registerAll_all_or_nothing {t : Table} (ht : Reachable t) {es : List Entry}
    (hes : ∀ e ∈ es, e.pattern.IsParsed) :
    ((∃ t', t.registerAll es = .ok t') ↔ Acceptable t es) ∧
      (∀ t', t.registerAll es = .ok t' →
        (enroll es).run.run t = (.ok (), t') ∧ t'.entries = t.entries ++ es ∧ t'.frozen = false ∧
          ∀ e ∈ t'.entries, ∀ l, e.label = some l →
            ∀ args : Arguments, args.firstReserved? ["self", "label"] = none →
            t'.urlFor l args = (e.pattern.fill args).mapError .fill) ∧
      (∀ err, t.registerAll es = .error err →
        (enroll es).run.run t = (.error err, t) ∧
          (t.frozen = true ∧ err = .frozen ∨
            ∃ es₁ e es₂, es = es₁ ++ e :: es₂ ∧ Acceptable t es₁ ∧ Objection t es₁ e err)) ∧
      t.entries.Pairwise fun a b => a.slot ≠ b.slot ∧ ∀ l, a.label = some l → b.label ≠ some l := by
  have hregistered := ht.registered
  have hrun := run_enroll t es
  rcases hregistered.registerAll_spec hes with ⟨hok, hacceptable⟩ | ⟨err, herror, hnot, hreason⟩
  · rw [hok] at hrun ⊢
    refine ⟨⟨fun _ => hacceptable, fun _ => ⟨_, rfl⟩⟩, ?_, nofun, hregistered.apart⟩
    rintro t' ⟨⟩
    obtain ⟨-, hknown, hapart⟩ := hregistered.acceptable_iff.mp hacceptable
    obtain ⟨hentries, hfrozen⟩ := entries_insertAll es t
    refine ⟨hrun, hentries, hfrozen.trans hacceptable.thawed, ?_⟩
    intro e he l hl args hargs
    exact urlFor_of_label ((hregistered.insertAll hes hknown hapart).get?_label he hl) hargs
  · rw [herror] at hrun ⊢
    refine ⟨⟨nofun, fun h => absurd h hnot⟩, nofun, ?_, hregistered.apart⟩
    rintro err' ⟨⟩
    exact ⟨hrun, hreason⟩

/-- A table of items, one of whose routes has a label. -/
def itemTable : Table :=
  [Call.add "GET" "/items/:id" "items.show" .anonymous (some "item"),
    .add "POST" "/items" "items.create" .elevated none].foldl Table.perform .empty

/-- Two routes of one shape for different methods, the second of which the table has already. -/
def itemBatch : List Entry :=
  [⟨"PUT", ⟨[.literal "items", .parameter "key"]⟩, "items.put", .elevated, some "change"⟩,
    ⟨"GET", ⟨[.literal "items", .parameter "key"]⟩, "items.read", .anonymous, none⟩]

theorem registerAll_all_or_nothing_items :
    (enroll itemBatch).run.run itemTable =
      (.error (.ambiguous "GET" "/items/:key" "/items/:id"), itemTable) ∧
      ¬ Acceptable itemTable itemBatch ∧ Acceptable itemTable (itemBatch.take 1) := by
  have hreachable : Reachable itemTable := ⟨_, by simp [Call.IsParsed], rfl⟩
  have hparsed : ∀ e ∈ itemBatch, e.pattern.IsParsed := by
    intro e he
    simp only [itemBatch, List.mem_cons, List.not_mem_nil, or_false] at he
    rcases he with rfl | rfl <;> exact ⟨"/items/:key", rfl⟩
  have hwhole := registerAll_all_or_nothing hreachable hparsed
  have hfirst := registerAll_all_or_nothing hreachable fun e (he : e ∈ itemBatch.take 1) =>
    hparsed e (List.mem_of_mem_take he)
  refine ⟨(hwhole.2.2.1 _ rfl).1, ?_, hfirst.1.mp ⟨_, rfl⟩⟩
  intro h
  obtain ⟨t', ht'⟩ := hwhole.1.mpr h
  cases ht'

end Waypost.Route
