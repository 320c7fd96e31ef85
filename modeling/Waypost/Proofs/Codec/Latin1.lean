import Waypost.Codec.Bytes
import Waypost.Text.Case

/-!
# Latin-1

All bytes are characters of Latin-1, and small letters of it stay within it.

* `encodeFrom_of_lt`, `encodeFrom_eq_ok` : what can be encoded, and as which bytes;
* `encode_decodeLatin1`, `decodeLatin1_of_encode` : bytes as texts and back;
  `decodeLatin1_injective` : no two are one text;
* `lowerLatin1` : the small letter of a byte; `lower_decodeLatin1` : small letters can be taken
  before or after decoding;
* `HighCapital` : the capitals that folding by ASCII leaves alone; `map_lowerByte_eq_iff` : what
  such folding finds among bytes in small letters.
-/

namespace Waypost.Codec

open Text

/-! ## Bytes and texts -/

theorem encodeFrom_of_lt (set : Charset) (pos : Nat) {cs : List Char}
    (h : ∀ c ∈ cs, c.toNat < set.size) :
    encodeFrom set pos cs = .ok (cs.map fun c => UInt8.ofNat c.toNat) := by
  induction cs generalizing pos with
  | nil => rfl
  | cons c cs ih =>
    rw [encodeFrom, if_pos (h c List.mem_cons_self), ih (pos + 1) fun d hd =>
      h d (List.mem_cons_of_mem c hd)]
    rfl

theorem encodeFrom_eq_ok {set : Charset} {pos : Nat} {cs : List Char} {bs : Bytes}
    (h : encodeFrom set pos cs = .ok bs) :
    (∀ c ∈ cs, c.toNat < set.size) ∧ bs = cs.map fun c => UInt8.ofNat c.toNat := by
  induction cs generalizing pos bs with
  | nil => exact ⟨nofun, (Except.ok.inj h).symm⟩
  | cons c cs ih =>
    unfold encodeFrom at h
    split at h
    · rename_i hc
      split at h
      · rename_i rest hrest
        obtain ⟨hcs, rfl⟩ := ih hrest
        exact ⟨List.forall_mem_cons.mpr ⟨hc, hcs⟩, (Except.ok.inj h).symm⟩
      · cases h
    · cases h

theorem encode_eq_ok {set : Charset} {s : String} {bs : Bytes} (h : encode set s = .ok bs) :
    (∀ c ∈ s.toList, c.toNat < set.size) ∧ bs = s.toList.map fun c => UInt8.ofNat c.toNat :=
  encodeFrom_eq_ok h

theorem decodeLatin1_of_encode {s : String} {bs : Bytes} (h : encode .latin1 s = .ok bs) :
    decodeLatin1 bs = s := by
  obtain ⟨hsize, rfl⟩ := encode_eq_ok h
  have hchars : (s.toList.map fun c => UInt8.ofNat c.toNat).map (fun b => Char.ofNat b.toNat) =
      s.toList := by
    rw [List.map_map]
    refine (List.map_congr_left fun c hc => ?_).trans (List.map_id s.toList)
    rw [Function.comp_apply, UInt8.toNat_ofNat_of_lt' (hsize c hc), Char.ofNat_toNat, id]
  rw [decodeLatin1, hchars, String.ofList_toList]

/-- What holds of all numbers below 256 holds of all bytes. -/
theorem forall_byte {P : UInt8 → Prop} (h : ∀ n : Fin 256, P (UInt8.ofNat n)) (b : UInt8) :
    P b := by
  have hb := h ⟨b.toNat, b.toNat_lt⟩
  rwa [UInt8.ofNat_toNat] at hb

theorem toNat_char_latin1 (b : UInt8) : (Char.ofNat b.toNat).toNat = b.toNat := by
  revert b
  apply forall_byte
  decide +kernel

theorem encode_decodeLatin1 (bs : Bytes) : encode .latin1 (decodeLatin1 bs) = .ok bs := by
  have hsize : ∀ c ∈ (decodeLatin1 bs).toList, c.toNat < Charset.latin1.size := by
    rw [decodeLatin1, String.toList_ofList]
    intro c hc
    obtain ⟨b, -, rfl⟩ := List.mem_map.mp hc
    rw [toNat_char_latin1]
    exact b.toNat_lt
  have hbytes : ((decodeLatin1 bs).toList.map fun c => UInt8.ofNat c.toNat) = bs := by
    rw [decodeLatin1, String.toList_ofList, List.map_map]
    refine (List.map_congr_left fun b _ => ?_).trans (List.map_id bs)
    rw [Function.comp_apply, toNat_char_latin1, UInt8.ofNat_toNat, id]
  rw [encode, encodeFrom_of_lt .latin1 0 hsize, hbytes]

theorem decodeLatin1_injective {bs bs' : Bytes} (h : decodeLatin1 bs = decodeLatin1 bs') :
    bs = bs' := by
  have hencode := encode_decodeLatin1 bs
  rw [h, encode_decodeLatin1] at hencode
  exact (Except.ok.inj hencode).symm

/-! ## Small letters -/

/-- A capital of Latin-1 that is not one of the letters A to Z. -/
def HighCapital (b : UInt8) : Prop :=
  192 ≤ b ∧ b ≤ 222 ∧ b ≠ 215

instance (b : UInt8) : Decidable (HighCapital b) :=
  inferInstanceAs (Decidable (_ ∧ _))

/-- The small letter of a byte, for all letters of Latin-1. -/
def lowerLatin1 (b : UInt8) : UInt8 :=
  if HighCapital b then b + 32 else lowerByte b

theorem lowerChar_latin1 (b : UInt8) :
    lowerChar (Char.ofNat b.toNat) = [Char.ofNat (lowerLatin1 b).toNat] := by
  revert b
  apply forall_byte
  decide +kernel

theorem lowerFrom_latin1 (before : List Char) (bs : Bytes) :
    lowerFrom before (bs.map fun b => Char.ofNat b.toNat) = (bs.map lowerLatin1).map fun b =>
      Char.ofNat b.toNat := by
  induction bs generalizing before with
  | nil => rfl
  | cons b bs ih =>
    have hsigma : Char.ofNat b.toNat ≠ 'Σ' := by
      intro heq
      have hnumber := congrArg Char.toNat heq
      rw [toNat_char_latin1] at hnumber
      exact absurd (hnumber ▸ b.toNat_lt) (by decide)
    rw [List.map_cons, lowerFrom, if_neg hsigma, lowerChar_latin1, ih]
    rfl

theorem lower_decodeLatin1 (bs : Bytes) :
    lower (decodeLatin1 bs) = decodeLatin1 (bs.map lowerLatin1) := by
  rw [lower, decodeLatin1, String.toList_ofList, lowerFrom_latin1]
  rfl

theorem lowerLatin1_of_not_highCapital {b : UInt8} (h : ¬ HighCapital b) :
    lowerLatin1 b = lowerByte b :=
  if_neg h

theorem not_highCapital_lowerLatin1 (b : UInt8) : ¬ HighCapital (lowerLatin1 b) := by
  revert b
  apply forall_byte
  decide +kernel

theorem lowerLatin1_lowerLatin1 (b : UInt8) : lowerLatin1 (lowerLatin1 b) = lowerLatin1 b := by
  revert b
  apply forall_byte
  decide +kernel

/-- Folding by ASCII leaves such a capital alone. -/
theorem lowerByte_of_highCapital {b : UInt8} (h : HighCapital b) : lowerByte b = b := by
  revert b
  apply forall_byte
  decide +kernel

/-- Bytes folded by ASCII are the small letters of given ones exactly if there is no other capital
among them and their own small letters are those. -/
theorem map_lowerByte_eq_iff {bs bs' : Bytes} :
    bs.map lowerByte = bs'.map lowerLatin1 ↔
      (∀ b ∈ bs, ¬ HighCapital b) ∧ bs.map lowerLatin1 = bs'.map lowerLatin1 := by
  have hsame : (∀ b ∈ bs, ¬ HighCapital b) → bs.map lowerLatin1 = bs.map lowerByte := by
    intro hnone
    exact List.map_congr_left fun b hb => lowerLatin1_of_not_highCapital (hnone b hb)
  constructor
  · intro heq
    have hnone : ∀ b ∈ bs, ¬ HighCapital b := by
      intro b hb hhigh
      have hmem : b ∈ bs'.map lowerLatin1 := by
        rw [← heq]
        exact List.mem_map.mpr ⟨b, hb, lowerByte_of_highCapital hhigh⟩
      obtain ⟨b', -, rfl⟩ := List.mem_map.mp hmem
      exact not_highCapital_lowerLatin1 b' hhigh
    exact ⟨hnone, (hsame hnone).trans heq⟩
  · rintro ⟨hnone, heq⟩
    exact (hsame hnone).symm.trans heq

end Waypost.Codec
