import Mathlib.Tactic.SplitIfs
import Waypost.Number.Integer

/-!
# Integers are read as they are written

* `digitValue?_of_isDigit`, `isBlank_of_isDigit` : the digits that integers are written with;
* `readDigits?_of_isDigit` : a row of digits is read to its end;
* `mem_toString` : the signs of an integer;
* `readInteger_toString` : an integer that is not too long comes back.
-/

namespace Waypost.Number

open Text

theorem toNat_of_isDigit {c : Char} (h : c.isDigit = true) : 48 ≤ c.toNat ∧ c.toNat ≤ 57 := by
  simpa [Char.isDigit, UInt32.le_iff_toNat_le] using h

theorem digitValue?_of_isDigit {c : Char} (h : c.isDigit = true) :
    digitValue? c = some (c.toNat - '0'.toNat) := by
  obtain ⟨hfirst, hlast⟩ := toNat_of_isDigit h
  have hfind : (digitZeros.find? fun z => z ≤ c.toNat && c.toNat < z + 10) = some 48 := by
    rw [digitZeros, List.find?_cons_of_pos]
    simp only [Bool.and_eq_true, decide_eq_true_eq]
    omega
  rw [digitValue?, hfind]
  rfl

theorem isBlank_of_isDigit {c : Char} (h : c.isDigit = true) : isBlank c = false := by
  obtain ⟨hfirst, hlast⟩ := toNat_of_isDigit h
  have houtside : ∀ r ∈ blankRanges, r.2 < 48 ∨ 57 < r.1 := by decide
  rw [Bool.eq_false_iff]
  intro hblank
  obtain ⟨r, hr, hlow, hhigh⟩ := within_iff.mp hblank
  have := houtside r hr
  omega

/-- A row of digits is read to its end. -/
theorem readDigits?_of_isDigit {ds : List Char} (h : ∀ c ∈ ds, c.isDigit = true) (value count : Nat)
    {afterDigit : Bool} (hdigit : afterDigit = true ∨ ds ≠ []) :
    readDigits? value count afterDigit ds =
      some (Nat.ofDigitChars 10 ds value, count + ds.length, []) := by
  induction ds generalizing value count afterDigit with
  | nil =>
    rw [readDigits?, if_pos (hdigit.resolve_right fun hne => hne rfl)]
    rfl
  | cons c ds ih =>
    rw [readDigits?, digitValue?_of_isDigit (h c List.mem_cons_self)]
    dsimp only
    rw [ih (fun d hd => h d (List.mem_cons_of_mem c hd)) _ _ (Or.inl rfl), List.length_cons,
      Nat.mul_comm value 10, Nat.add_assoc count, Nat.add_comm 1]
    rfl

/-! ## Integers as texts -/

theorem toList_toString (n : Int) :
    (toString n).toList =
      if 0 ≤ n then Nat.toDigits 10 n.natAbs else '-' :: Nat.toDigits 10 n.natAbs := by
  rw [Int.toString_eq_repr, Int.repr_eq_if]
  split_ifs with hsign
  · rw [Nat.toList_repr, show n.toNat = n.natAbs by omega]
  · rw [String.toList_append, Nat.toList_repr, show (-n).toNat = n.natAbs by omega]
    rfl

theorem isDigit_of_mem_toDigits {n : Nat} : ∀ c ∈ Nat.toDigits 10 n, c.isDigit = true :=
  fun _ hc => Nat.isDigit_of_mem_toDigits (by decide) (by decide) hc

/-- The signs of an integer are digits and, before them, a minus. -/
theorem mem_toString {n : Int} {c : Char} (h : c ∈ (toString n).toList) :
    c = '-' ∨ c.isDigit = true := by
  rw [toList_toString] at h
  split_ifs at h
  · exact Or.inr (isDigit_of_mem_toDigits c h)
  · exact (List.mem_cons.mp h).imp_right (isDigit_of_mem_toDigits c)

theorem readDigits?_toDigits (n : Nat) :
    readDigits? 0 0 false (Nat.toDigits 10 n) = some (n, (Nat.toDigits 10 n).length, []) := by
  rw [readDigits?_of_isDigit isDigit_of_mem_toDigits 0 0 (Or.inr Nat.toDigits_ne_nil), Nat.zero_add,
    Nat.ofDigitChars_toDigits (by decide) (by decide)]

/-- Digits have no blanks before them. -/
theorem dropWhile_of_isDigit {ds : List Char} (h : ∀ c ∈ ds, c.isDigit = true) :
    ds.dropWhile isNumberBlank = ds := by
  cases ds with
  | nil => rfl
  | cons c ds =>
    refine List.dropWhile_cons_of_neg ?_
    rw [isNumberBlank, isBlank_of_isDigit (h c List.mem_cons_self), Bool.false_and]
    exact Bool.false_ne_true

/-- Digits have no sign before them. -/
theorem readSign_of_isDigit {ds : List Char} (h : ∀ c ∈ ds, c.isDigit = true) :
    readSign ds = (false, ds) := by
  unfold readSign
  split
  · exact absurd (h '-' List.mem_cons_self) (by decide)
  · exact absurd (h '+' List.mem_cons_self) (by decide)
  · rfl

/-- The sign and the digits of an integer. -/
theorem readSign_toString (n : Int) :
    readSign ((toString n).toList.dropWhile isNumberBlank) =
      (decide (n < 0), Nat.toDigits 10 n.natAbs) := by
  rw [toList_toString]
  split_ifs with hsign
  · rw [dropWhile_of_isDigit isDigit_of_mem_toDigits, readSign_of_isDigit isDigit_of_mem_toDigits,
      decide_eq_false (Int.not_lt.mpr hsign)]
  · rw [List.dropWhile_cons_of_neg (by decide), decide_eq_true (Int.not_le.mp hsign)]
    rfl

/-- An integer that is not too long is read as it was written. -/
theorem readInteger_toString {n : Int} (hlength : (Nat.toDigits 10 n.natAbs).length ≤ maxDigits) :
    readInteger (toString n) = .ok n := by
  unfold readInteger
  rw [readSign_toString]
  dsimp only
  rw [readDigits?_toDigits]
  dsimp only
  rw [if_neg (Nat.not_lt.mpr hlength), List.all_nil, if_pos rfl]
  congr 1
  split_ifs with hsign
  · rw [decide_eq_true_eq] at hsign
    omega
  · rw [decide_eq_true_eq] at hsign
    omega

end Waypost.Number
