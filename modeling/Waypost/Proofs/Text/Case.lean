import Waypost.Message.Headers

/-!
# Small letters

* `not_isCapital_lower` : no letter from A to Z is left in a text in small letters, whatever else is
  in it;
* `IsSmall` : texts like the names that a program itself gives its headers;
* `foldName_map_ofNat` : the name of a header without such letters is stored as it is compared.
-/

namespace Waypost.Text

/-- One of the letters A to Z. -/
def IsCapital (c : Char) : Prop :=
  65 ≤ c.toNat ∧ c.toNat ≤ 90

instance (c : Char) : Decidable (IsCapital c) :=
  inferInstanceAs (Decidable (_ ∧ _))

/-- Whether a text is in ASCII and without these letters. -/
def IsSmall (s : String) : Prop :=
  ∀ c ∈ s.toList, c.toNat < 128 ∧ ¬ IsCapital c

instance (s : String) : Decidable (IsSmall s) :=
  decidable_of_iff ((s.toList.all fun c => decide (c.toNat < 128 ∧ ¬ IsCapital c)) = true)
    (by simp [IsSmall])

theorem not_isCapital_toLower {c : Char} (hc : c.toNat < 128) : ¬ IsCapital c.toLower := by
  have hall : ∀ n : Fin 128, ¬ IsCapital (Char.ofNat n).toLower := by decide
  have h := hall ⟨c.toNat, hc⟩
  rwa [Char.ofNat_toNat] at h

theorem not_isCapital_ofNat {n : Nat} (hn : 90 < n) : ¬ IsCapital (Char.ofNat n) := by
  by_cases hvalid : n.isValidChar
  · rw [Char.ofNat, dif_pos hvalid]
    exact fun h => absurd h.2 (Nat.not_le.mpr hn)
  · rw [Char.ofNat, dif_neg hvalid]
    decide

/-- A run of letters starts above Z, or takes its letters there. -/
theorem lt_shiftInRuns {n : Nat} (hn : 90 < n) : 90 < shiftInRuns lowerRuns n := by
  have hruns : ∀ r ∈ lowerRuns, 90 < (r.1 : Int) + r.2.2.2 := by decide +kernel
  unfold shiftInRuns
  split
  · rename_i r hfind
    have hshift := hruns r (List.mem_of_find?_eq_some hfind)
    have hstart : r.1 ≤ n := by
      have hin := List.find?_some hfind
      simp only [Bool.and_eq_true, decide_eq_true_eq] at hin
      exact hin.1.1
    omega
  · exact hn

theorem not_isCapital_lowerChar (c : Char) : ∀ d ∈ lowerChar c, ¬ IsCapital d := by
  have hspecial : ∀ p ∈ lowerSpecial, ∀ m ∈ p.2, 90 < m := by decide
  intro d hd
  unfold lowerChar at hd
  split at hd
  · rename_i hascii
    rw [List.mem_singleton.mp hd]
    exact not_isCapital_toLower hascii
  · rename_i hascii
    unfold mapCase at hd
    split at hd
    · rename_i ns hlookup
      obtain ⟨m, hm, rfl⟩ := List.mem_map.mp hd
      obtain ⟨l, r, hsplit, -⟩ := List.lookup_eq_some_iff.mp hlookup
      refine not_isCapital_ofNat (hspecial (c.toNat, ns) ?_ m hm)
      rw [hsplit]
      exact List.mem_append_right l List.mem_cons_self
    · rw [List.mem_singleton.mp hd]
      exact not_isCapital_ofNat (lt_shiftInRuns (by omega))

theorem not_isCapital_lowerFrom (before cs : List Char) :
    ∀ d ∈ lowerFrom before cs, ¬ IsCapital d := by
  induction cs generalizing before with
  | nil => exact nofun
  | cons c cs ih =>
    intro d hd
    unfold lowerFrom at hd
    split at hd
    · rcases List.mem_cons.mp hd with rfl | hrest
      · split <;> decide
      · exact ih (c :: before) d hrest
    · rcases List.mem_append.mp hd with hchar | hrest
      · exact not_isCapital_lowerChar c d hchar
      · exact ih (c :: before) d hrest

theorem not_isCapital_lower (s : String) : ∀ d ∈ (lower s).toList, ¬ IsCapital d := by
  rw [lower, String.toList_ofList]
  exact not_isCapital_lowerFrom [] s.toList

theorem foldName_map_ofNat {cs : List Char} (hcs : ∀ c ∈ cs, c.toNat < 256 ∧ ¬ IsCapital c) :
    Headers.foldName (cs.map fun c => UInt8.ofNat c.toNat) = cs.map fun c =>
      UInt8.ofNat c.toNat := by
  rw [Headers.foldName, List.map_map]
  refine List.map_congr_left fun c hc => ?_
  obtain ⟨hsize, hcapital⟩ := hcs c hc
  have hbyte : (UInt8.ofNat c.toNat).toNat = c.toNat := UInt8.toNat_ofNat_of_lt' hsize
  rw [Function.comp_apply, lowerByte, if_neg]
  rw [Bool.and_eq_true, decide_eq_true_eq, decide_eq_true_eq, UInt8.le_iff_toNat_le,
    UInt8.le_iff_toNat_le, hbyte]
  exact hcapital

end Waypost.Text
