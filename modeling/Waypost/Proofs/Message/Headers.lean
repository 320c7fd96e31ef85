import Mathlib.Data.Finset.Card
import Waypost.Message.Headers
import Waypost.Proofs.Codec.Latin1
import Waypost.Proofs.Keyed

/-!
# Headers as a mapping

A stored name is folded in two ways: as bytes, by ASCII, where a key is looked up, and as a text
where the keys are listed. The two differ for capitals of Latin-1 beyond Z, and then a key that is
listed may lead nowhere.

* `Findable` : the names that are folded alike; `valuesUnder` : the values that a listed key leads
  to;
* `mem_keys_iff`, `nodup_keys` : the keys that are listed; `getAll_of_mem_keys` : what each of them
  leads to;
* `Gives` : all ways to look a key up agree; `gives_of_getAll` : they always do;
* `valuesUnder_perm` : the keys share the values of all findable names out among them;
* `Lawful` : what is asked of a mapping; `lawful_iff_findable` : headers are one exactly if all
  their names are findable.
-/

namespace Waypost.Headers

open Codec Text

variable {h : Headers} {k : String}

/-! ## Names -/

/-- A stored name that its key leads to: it has no capitals of Latin-1 beyond Z. -/
def Findable (name : Bytes) : Prop :=
  ∀ b ∈ name, ¬ HighCapital b

instance (name : Bytes) : Decidable (Findable name) :=
  inferInstanceAs (Decidable (∀ b ∈ name, ¬ HighCapital b))

/-- The key that a stored name is listed as. -/
def keyOf (p : Bytes × Bytes) : String :=
  lower (decodeLatin1 p.1)

theorem keyOf_eq (p : Bytes × Bytes) : keyOf p = decodeLatin1 (p.1.map lowerLatin1) :=
  lower_decodeLatin1 p.1

theorem foldKey_keyOf (p : Bytes × Bytes) : foldKey (keyOf p) = .ok (p.1.map lowerLatin1) := by
  have hlower : (p.1.map lowerLatin1).map lowerLatin1 = p.1.map lowerLatin1 := by
    rw [List.map_map]
    exact List.map_congr_left fun b _ => lowerLatin1_lowerLatin1 b
  rw [foldKey, keyOf_eq, lower_decodeLatin1, hlower, encode_decodeLatin1]

/-- A key leads to the findable names that are listed as it. -/
theorem foldName_eq_iff_keyOf (p q : Bytes × Bytes) :
    foldName p.1 = q.1.map lowerLatin1 ↔ Findable p.1 ∧ keyOf p = keyOf q := by
  have hkeys : keyOf p = keyOf q ↔ p.1.map lowerLatin1 = q.1.map lowerLatin1 := by
    rw [keyOf_eq, keyOf_eq]
    exact ⟨decodeLatin1_injective, congrArg decodeLatin1⟩
  rw [hkeys]
  exact map_lowerByte_eq_iff

/-! ## Keys -/

theorem keys_eq (h : Headers) :
    h.keys = Keyed.keys ((h.raw.map fun p => (keyOf p, ())).foldl
      (fun m p => Keyed.putNew p.1 p.2 m) []) := by
  rw [keys, List.foldl_map]
  rfl

theorem nodup_keys (h : Headers) : h.keys.Nodup := by
  rw [keys_eq]
  exact Keyed.nodup_keys_foldl_putNew _ List.nodup_nil

theorem mem_keys_iff : k ∈ h.keys ↔ ∃ p ∈ h.raw, keyOf p = k := by
  rw [keys_eq, Keyed.mem_keys_foldl_putNew]
  simp [Keyed.keys]

theorem keyOf_mem_keys {p : Bytes × Bytes} (hp : p ∈ h.raw) : keyOf p ∈ h.keys :=
  mem_keys_iff.mpr ⟨p, hp, rfl⟩

theorem size_eq_card (h : Headers) : h.size = h.keys.toFinset.card :=
  (List.toFinset_card_of_nodup (nodup_keys h)).symm

/-! ## Values -/

/-- All values, in order. -/
def values (h : Headers) : List String :=
  h.raw.map fun p => decodeLatin1 p.2

/-- The values of the findable names that are listed as a key. -/
def valuesUnder (h : Headers) (k : String) : List String :=
  (h.raw.filter fun p => Findable p.1 ∧ keyOf p = k).map fun p => decodeLatin1 p.2

theorem getAll_of_mem_keys (hk : k ∈ h.keys) : h.getAll k = .ok (h.valuesUnder k) := by
  obtain ⟨q, -, rfl⟩ := mem_keys_iff.mp hk
  have hfold : ∀ p ∈ h.raw, decide (foldName p.1 = q.1.map lowerLatin1) =
      decide (Findable p.1 ∧ keyOf p = keyOf q) :=
    fun p _ => decide_eq_decide.mpr (foldName_eq_iff_keyOf p q)
  rw [getAll, foldKey_keyOf]
  dsimp only
  rw [valuesOf, List.filter_congr hfold]
  rfl

/-- All ways to look a key up agree on its values. -/
structure Gives (h : Headers) (k : String) (vs : List String) : Prop where
  all : h.getAll k = .ok vs
  first : h.get? k = .ok vs.head?
  has : h.contains k = .ok vs.head?.isSome
  must : h.get k = vs.head?.elim (.error (.missing k)) .ok

theorem gives_of_getAll {vs : List String} (hall : h.getAll k = .ok vs) : h.Gives k vs := by
  have hfirst : h.get? k = .ok vs.head? := by
    rw [get?, hall]
  refine ⟨hall, hfirst, ?_, ?_⟩
  · rw [contains, hfirst]
  · rw [get, hfirst]
    cases vs <;> rfl

/-- The values of all findable names are found, and once each. -/
theorem valuesUnder_perm (h : Headers) :
    (h.keys.flatMap h.valuesUnder).Perm
    ((h.raw.filter fun p => Findable p.1).map fun p => decodeLatin1 p.2) := by
  have hunder : ∀ k, h.valuesUnder k =
      ((h.raw.filter fun p => Findable p.1).filter fun p => keyOf p = k).map fun p =>
        decodeLatin1 p.2 := by
    intro k
    rw [List.filter_filter]
    simp only [valuesUnder, Bool.decide_and, Bool.and_comm]
  have hcovered : ∀ p ∈ h.raw.filter (fun p => Findable p.1), keyOf p ∈ h.keys :=
    fun p hp => keyOf_mem_keys (List.mem_filter.mp hp).1
  have hshared := Keyed.flatMap_filter_perm keyOf (nodup_keys h) hcovered
  rw [List.flatMap_congr fun k _ => hunder k, ← List.map_flatMap]
  exact hshared.map _

/-! ## Lawful headers -/

/-- The headers are a mapping: each key that is listed has a first value, and the keys share all
values out among them. -/
structure Lawful (h : Headers) : Prop where
  distinct : h.keys.Nodup
  counted : h.size = h.keys.toFinset.card
  found : ∀ k ∈ h.keys, ∃ v rest, h.Gives k (v :: rest)
  shared : ∃ given : String → List String, (∀ k ∈ h.keys, h.getAll k = .ok (given k)) ∧
    (h.keys.flatMap given).Perm h.values
  paired : ∃ ps, h.pairs h.keys = .ok ps ∧ ps.map Prod.fst = h.keys
  shown : ∃ text, h.render = .ok text

theorem found_of_findable (hnames : ∀ p ∈ h.raw, Findable p.1) (hk : k ∈ h.keys) :
    ∃ v rest, h.Gives k (v :: rest) := by
  obtain ⟨p, hp, hkey⟩ := mem_keys_iff.mp hk
  have hmem : decodeLatin1 p.2 ∈ h.valuesUnder k :=
    List.mem_map.mpr ⟨p, List.mem_filter.mpr ⟨hp, decide_eq_true ⟨hnames p hp, hkey⟩⟩, rfl⟩
  obtain ⟨v, rest, hvalues⟩ := List.exists_cons_of_ne_nil (List.ne_nil_of_mem hmem)
  exact ⟨v, rest, gives_of_getAll (hvalues ▸ getAll_of_mem_keys hk)⟩

theorem pairs_of_found {ks : List String} (hks : ∀ k ∈ ks, ∃ v, h.get k = .ok v) :
    ∃ ps, h.pairs ks = .ok ps ∧ ps.map Prod.fst = ks := by
  induction ks with
  | nil => exact ⟨[], rfl, rfl⟩
  | cons k ks ih =>
    obtain ⟨v, hv⟩ := hks k List.mem_cons_self
    obtain ⟨ps, hps, hkeys⟩ := ih fun k' hk' => hks k' (List.mem_cons_of_mem k hk')
    refine ⟨(k, v) :: ps, ?_, ?_⟩
    · rw [pairs, hv]
      dsimp only
      rw [hps]
    · rw [List.map_cons, hkeys]

theorem lawful_of_findable (hnames : ∀ p ∈ h.raw, Findable p.1) : h.Lawful := by
  have hfound : ∀ k ∈ h.keys, ∃ v, h.get k = .ok v := by
    intro k hk
    obtain ⟨v, rest, hgives⟩ := found_of_findable hnames hk
    exact ⟨v, hgives.must⟩
  have hall : (h.raw.filter fun p => Findable p.1) = h.raw :=
    List.filter_eq_self.mpr fun p hp => decide_eq_true (hnames p hp)
  have hshared := valuesUnder_perm h
  rw [hall] at hshared
  obtain ⟨ps, hpairs, hkeys⟩ := pairs_of_found hfound
  refine ⟨nodup_keys h, size_eq_card h, fun k hk => found_of_findable hnames hk,
    ⟨h.valuesUnder, fun k hk => getAll_of_mem_keys hk, hshared⟩, ⟨ps, hpairs, hkeys⟩, ?_⟩
  rw [render, hpairs]
  exact ⟨_, rfl⟩

/-- If all values are found, so are all names. -/
theorem Lawful.findable (hlawful : h.Lawful) : ∀ p ∈ h.raw, Findable p.1 := by
  obtain ⟨given, hgiven, hperm⟩ := hlawful.shared
  have hunder : h.keys.flatMap given = h.keys.flatMap h.valuesUnder :=
    List.flatMap_congr fun k hk => Except.ok.inj ((hgiven k hk).symm.trans (getAll_of_mem_keys hk))
  have hlength : (h.raw.filter fun p => Findable p.1).length = h.raw.length := by
    have hcount := ((hunder ▸ hperm).symm.trans (valuesUnder_perm h)).length_eq
    rw [values, List.length_map, List.length_map] at hcount
    exact hcount.symm
  intro p hp
  exact of_decide_eq_true (List.length_filter_eq_length_iff.mp hlength p hp)

/-- The keys are distinct and lead to the findable names. The headers are a mapping exactly if all
their names are such. -/
theorem lawful_iff_findable (h : Headers) :
    h.keys.Nodup ∧ h.size = h.keys.toFinset.card ∧ (∀ k ∈ h.keys, h.Gives k (h.valuesUnder k)) ∧
      (h.Lawful ↔ ∀ p ∈ h.raw, Findable p.1) :=
  ⟨nodup_keys h, size_eq_card h, fun _ hk => gives_of_getAll (getAll_of_mem_keys hk),
    Lawful.findable, lawful_of_findable⟩

/-- One header, whose name is the byte of a capital letter beyond Z. -/
def accentedHeaders : Headers where
  raw := [([0xC0], [0x76])]

/-- A key can be listed and lead nowhere. -/
theorem not_forall_lawful : ¬ ∀ h : Headers, h.Lawful := by
  intro hall
  have hkey : keyOf ([0xC0], [0x76]) ∈ accentedHeaders.keys := keyOf_mem_keys List.mem_cons_self
  obtain ⟨v, rest, hgives⟩ := (hall accentedHeaders).found _ hkey
  have hvalues : v :: rest = accentedHeaders.valuesUnder _ :=
    Except.ok.inj (hgives.all.symm.trans (getAll_of_mem_keys hkey))
  have hname : ¬ Findable [0xC0] := fun h => h 0xC0 List.mem_cons_self (by decide)
  have hnone : accentedHeaders.valuesUnder (keyOf ([0xC0], [0x76])) = [] := by
    simp [accentedHeaders, valuesUnder, hname]
  cases hvalues.trans hnone

end Waypost.Headers
