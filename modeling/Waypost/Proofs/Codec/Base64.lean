import Waypost.Codec.Base64

/-!
# Reading base64 back

* `letters` : the digits that are safe in URLs, as characters; `mem_letters_of_mem_encode` : nothing
  else is written;
* `decodeLenient_encode` : what is written is read back.
-/

namespace Waypost.Codec.Base64

/-- The letters, figures and two signs that are safe in URLs. -/
def letters : List Char :=
  "ABCDEFGHIJKLMNOPQRSTUVWXYZabcdefghijklmnopqrstuvwxyz0123456789-_".toList

variable (a : Alphabet)

/-! ## Digits -/

theorem value?_digit {n : Nat} (h : n < 64) : value? a (digit a n) = some n := by
  have hall : ∀ n : Fin 64, value? a (digit a n) = some n.val := by cases a <;> decide
  exact hall ⟨n, h⟩

theorem digit_ne_padding {n : Nat} (h : n < 64) : digit a n ≠ padding := by
  have hall : ∀ n : Fin 64, digit a n ≠ padding := by cases a <;> decide
  exact hall ⟨n, h⟩

theorem digit_mem_letters {n : Nat} (h : n < 64) :
    (digit .urlSafe n).toNat < 128 ∧ Char.ofNat (digit .urlSafe n).toNat ∈ letters := by
  have hall : ∀ n : Fin 64, (digit .urlSafe n).toNat < 128 ∧
      Char.ofNat (digit .urlSafe n).toNat ∈ letters := by
    decide +kernel
  exact hall ⟨n, h⟩

theorem exists_digit_of_mem_encode {bs : Bytes} {b : UInt8} (h : b ∈ encode a bs) :
    ∃ n < 64, b = digit a n := by
  induction bs using encode.induct with
  | case1 => cases h
  | case2 x =>
    have hx := x.toNat_lt
    rw [encode] at h
    simp only [List.mem_cons, List.not_mem_nil, or_false] at h
    rcases h with rfl | rfl
    · exact ⟨_, by omega, rfl⟩
    · exact ⟨_, by omega, rfl⟩
  | case3 x y _ _ _ =>
    have hx := x.toNat_lt
    have hy := y.toNat_lt
    rw [encode] at h
    simp only [List.mem_cons, List.not_mem_nil, or_false] at h
    rcases h with rfl | rfl | rfl
    · exact ⟨_, by omega, rfl⟩
    · exact ⟨_, by omega, rfl⟩
    · exact ⟨_, by omega, rfl⟩
  | case4 x y z rest _ _ _ _ ih =>
    have hx := x.toNat_lt
    have hy := y.toNat_lt
    have hz := z.toNat_lt
    rw [encode] at h
    simp only [List.mem_cons] at h
    rcases h with rfl | rfl | rfl | rfl | h
    · exact ⟨_, by omega, rfl⟩
    · exact ⟨_, by omega, rfl⟩
    · exact ⟨_, by omega, rfl⟩
    · exact ⟨_, by omega, rfl⟩
    · exact ih h

theorem mem_letters_of_mem_encode {bs : Bytes} {b : UInt8} (h : b ∈ encode .urlSafe bs) :
    b.toNat < 128 ∧ Char.ofNat b.toNat ∈ letters := by
  obtain ⟨n, hn, rfl⟩ := exists_digit_of_mem_encode .urlSafe h
  exact digit_mem_letters hn

/-! ## Groups of digits -/

theorem decodeFrom_digit {n : Nat} (h : n < 64) (filled left pads : Nat) (bs : Bytes) :
    decodeFrom a filled left pads (digit a n :: bs) =
      if filled = 0 then decodeFrom a 1 n 0 bs
      else if filled = 1 then
        (decodeFrom a 2 (n % 16) 0 bs).map (UInt8.ofNat (left * 4 + n / 16) :: ·)
      else if filled = 2 then
        (decodeFrom a 3 (n % 4) 0 bs).map (UInt8.ofNat (left * 16 + n / 4) :: ·)
      else (decodeFrom a 0 0 0 bs).map (UInt8.ofNat (left * 64 + n) :: ·) := by
  rw [decodeFrom, if_neg (digit_ne_padding a h), value?_digit a h]

/-- A byte whose number is put together from two parts. -/
theorem ofNat_eq {x : UInt8} {n : Nat} (h : n = x.toNat) : UInt8.ofNat n = x := by
  rw [h, UInt8.ofNat_toNat]

theorem decodeFrom_one (x : UInt8) :
    decodeFrom a 0 0 0 [digit a (x.toNat / 4), digit a (x.toNat % 4 * 16), padding, padding] =
      some [x] := by
  have hx := x.toNat_lt
  rw [decodeFrom_digit a (by omega), if_pos rfl, decodeFrom_digit a (by omega),
    if_neg Nat.one_ne_zero, if_pos rfl, ofNat_eq (x := x) (by omega)]
  rfl

theorem decodeFrom_two (x y : UInt8) :
    decodeFrom a 0 0 0
        [digit a (x.toNat / 4), digit a (x.toNat % 4 * 16 + y.toNat / 16),
          digit a (y.toNat % 16 * 4), padding] =
      some [x, y] := by
  have hx := x.toNat_lt
  have hy := y.toNat_lt
  rw [decodeFrom_digit a (by omega), if_pos rfl, decodeFrom_digit a (by omega),
    if_neg Nat.one_ne_zero, if_pos rfl, decodeFrom_digit a (by omega), if_neg (by decide),
    if_neg (by decide), if_pos rfl, ofNat_eq (x := x) (by omega), ofNat_eq (x := y) (by omega)]
  rfl

theorem decodeFrom_three (x y z : UInt8) (bs : Bytes) :
    decodeFrom a 0 0 0
        (digit a (x.toNat / 4) :: digit a (x.toNat % 4 * 16 + y.toNat / 16) ::
          digit a (y.toNat % 16 * 4 + z.toNat / 64) :: digit a (z.toNat % 64) :: bs) =
      (decodeFrom a 0 0 0 bs).map fun r => x :: y :: z :: r := by
  have hx := x.toNat_lt
  have hy := y.toNat_lt
  have hz := z.toNat_lt
  rw [decodeFrom_digit a (by omega), if_pos rfl, decodeFrom_digit a (by omega),
    if_neg Nat.one_ne_zero, if_pos rfl, decodeFrom_digit a (by omega), if_neg (by decide),
    if_neg (by decide), if_pos rfl, decodeFrom_digit a (by omega),
    if_neg (by decide), if_neg (by decide), if_neg (by decide), ofNat_eq (x := x) (by omega),
    ofNat_eq (x := y) (by omega), ofNat_eq (x := z) (by omega), Option.map_map, Option.map_map]
  rfl

/-- What is written is read back. -/
theorem decodeLenient_encode (bs : Bytes) : decodeLenient a (encode a bs) = some bs := by
  induction bs using encode.induct with
  | case1 =>
    rw [encode]
    rfl
  | case2 x =>
    rw [encode]
    exact decodeFrom_one a x
  | case3 x y _ _ _ =>
    rw [encode]
    exact decodeFrom_two a x y
  | case4 x y z rest _ _ _ _ ih =>
    unfold decodeLenient at ih
    have hlength : ∀ d₁ d₂ d₃ d₄ : UInt8,
        (d₁ :: d₂ :: d₃ :: d₄ :: encode a rest).length % 4 = (encode a rest).length % 4 :=
      fun _ _ _ _ => Nat.add_mod_right _ 4
    rw [encode, decodeLenient, hlength, List.cons_append, List.cons_append, List.cons_append,
      List.cons_append, decodeFrom_three, ih]
    rfl

end Waypost.Codec.Base64
