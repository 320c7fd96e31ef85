import Waypost.Codec.Utf8
import Waypost.Proofs.Codec.Latin1

/-!
# Texts and bytes below 128

In this range all codecs agree: a character is the byte of the same number.

* `encodeUtf8_ascii`, `encode_ascii` : the bytes of a text;
* `decodeLatin1_encodeUtf8`, `decodeUtf8_encodeUtf8` : the way back;
* `encodeUtf8_decodeLatin1` : and the bytes that come back as they were;
* `lowerLatin1_ascii` : the small letters are those of A to Z.
-/

namespace Waypost.Codec

theorem encodeUtf8_ascii {s : String} (h : ∀ c ∈ s.toList, c.toNat < 128) :
    encodeUtf8 s = s.toList.map fun c => UInt8.ofNat c.toNat := by
  unfold encodeUtf8
  revert h
  induction s.toList with
  | nil => intro h; rfl
  | cons c cs ih =>
    intro h
    have hchar : encodeUtf8Char c = [UInt8.ofNat c.toNat] := by
      unfold encodeUtf8Char
      rw [if_pos (h c List.mem_cons_self)]
    rw [List.flatMap_cons, hchar, ih fun d hd => h d (List.mem_cons_of_mem c hd), List.map_cons]
    rfl

theorem encode_ascii (set : Charset) {s : String} (h : ∀ c ∈ s.toList, c.toNat < 128) :
    encode set s = .ok (encodeUtf8 s) := by
  have hsize : 128 ≤ set.size := by cases set <;> decide
  rw [encode, encodeFrom_of_lt set 0 fun c hc => Nat.lt_of_lt_of_le (h c hc) hsize,
    encodeUtf8_ascii h]

theorem toNat_ofNat_ascii {n : Nat} (h : n < 128) : (UInt8.ofNat n).toNat = n :=
  UInt8.toNat_ofNat_of_lt' (Nat.lt_trans h (by decide))

theorem decodeLatin1_encodeUtf8 {s : String} (h : ∀ c ∈ s.toList, c.toNat < 128) :
    decodeLatin1 (encodeUtf8 s) = s :=
  decodeLatin1_of_encode (encode_ascii .latin1 h)

theorem decodeUtf8From_ascii (pass : Bool) (pos : Nat) {cs : List Char}
    (h : ∀ c ∈ cs, c.toNat < 128) :
    decodeUtf8From pass pos 0 (cs.map fun c => UInt8.ofNat c.toNat) = .ok cs := by
  induction cs generalizing pos with
  | nil => rfl
  | cons c cs ih =>
    have hc : c.toNat < 128 := h c List.mem_cons_self
    have hbyte : UInt8.ofNat c.toNat < 0x80 := by
      rw [UInt8.lt_iff_toNat_lt, toNat_ofNat_ascii hc]
      exact hc
    rw [List.map_cons, decodeUtf8From]
    unfold utf8Step
    rw [if_pos hbyte, toNat_ofNat_ascii hc, Char.ofNat_toNat]
    dsimp only
    rw [ih (pos + 1) fun d hd => h d (List.mem_cons_of_mem c hd)]
    rfl

theorem decodeUtf8_encodeUtf8 {s : String} (h : ∀ c ∈ s.toList, c.toNat < 128) :
    decodeUtf8 (encodeUtf8 s) = .ok s := by
  rw [decodeUtf8, encodeUtf8_ascii h, decodeUtf8From_ascii false 0 h, Except.map,
    String.ofList_toList]

theorem ascii_decodeLatin1 {bs : Bytes} (h : ∀ b ∈ bs, b.toNat < 128) :
    ∀ c ∈ (decodeLatin1 bs).toList, c.toNat < 128 := by
  rw [decodeLatin1, String.toList_ofList]
  intro c hc
  obtain ⟨b, hb, rfl⟩ := List.mem_map.mp hc
  rw [toNat_char_latin1]
  exact h b hb

theorem encodeUtf8_decodeLatin1 {bs : Bytes} (h : ∀ b ∈ bs, b.toNat < 128) :
    encodeUtf8 (decodeLatin1 bs) = bs := by
  rw [encodeUtf8_ascii (ascii_decodeLatin1 h), decodeLatin1, String.toList_ofList, List.map_map]
  refine (List.map_congr_left fun b _ => ?_).trans (List.map_id bs)
  rw [Function.comp_apply, toNat_char_latin1, UInt8.ofNat_toNat, id]

theorem lowerLatin1_ascii {b : UInt8} (h : b.toNat < 128) : lowerLatin1 b = Text.lowerByte b := by
  apply lowerLatin1_of_not_highCapital
  intro hhigh
  exact absurd (UInt8.le_iff_toNat_le.mp hhigh.1) (Nat.not_le.mpr (Nat.lt_trans h (by decide)))

end Waypost.Codec
