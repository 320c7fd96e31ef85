import Waypost.Access.SignedToken
import Waypost.Proofs.Codec.Ascii
import Waypost.Proofs.Codec.Base64
import Waypost.Proofs.Json.Text
import Waypost.Proofs.Text.Pieces

/-!
# Signed tokens are read back

A payload may hold its text compressed, so that a token has more signed values than the one that
`Signer.sign` gives.

* `UrlSafe` : a text of letters that are safe in URLs;
* `Signer.Carries token` : the payloads that stand for a token; `Signer.sealed` : a payload with its
  signature;
* `Signer.Restores` : what a signer compresses is found in it again; `Signer.carries_payload` : then
  its payloads stand for their tokens;
* `Signer.unsign_sealed` : the token of a signed payload is the one that it stands for;
* `Signer.mem_sealed` : a signed payload consists of safe letters and points.
-/

namespace Waypost.Access

open Codec Text

/-- A text of letters that are safe in URLs. -/
def UrlSafe (s : String) : Prop :=
  ∀ c ∈ s.toList, c ∈ Base64.letters

instance (s : String) : Decidable (UrlSafe s) :=
  decidable_of_iff ((s.toList.all fun c => decide (c ∈ Base64.letters)) = true) (by simp [UrlSafe])

/-- A letter that is safe in URLs is a sign of ASCII that can be printed, and none of those that
mark an end. -/
theorem letter_spec {c : Char} (h : c ∈ Base64.letters) :
    c.toNat < 128 ∧ 32 ≤ c.toNat ∧ isBlank c = false ∧ c ∉ ['"', '\\', ';', '.'] := by
  have hall : (Base64.letters.all fun c =>
      decide (c.toNat < 128 ∧ 32 ≤ c.toNat ∧ isBlank c = false ∧ c ∉ ['"', '\\', ';', '.'])) =
      true := by decide +kernel
  exact of_decide_eq_true (List.all_eq_true.mp hall c h)

theorem point_notMem_letters : '.' ∉ Base64.letters :=
  fun h => (letter_spec h).2.2.2 (by decide)

theorem plain_of_mem_letters {c : Char} (h : c ∈ Base64.letters) : Json.Plain c := by
  obtain ⟨-, hprintable, -, hmark⟩ := letter_spec h
  refine ⟨?_, ?_, hprintable⟩
  · rintro rfl
    exact hmark (by decide)
  · rintro rfl
    exact hmark (by decide)

theorem UrlSafe.ascii_render {s : String} (h : UrlSafe s) :
    ∀ c ∈ ((Json.text s).render .compact).toList, c.toNat < 128 := by
  rw [Json.render_plain fun c hc => plain_of_mem_letters (h c hc), String.toList_ofList]
  intro c hc
  simp only [List.cons_append, List.mem_cons, List.mem_append, List.not_mem_nil, or_false] at hc
  rcases hc with rfl | hc | rfl
  · decide
  · exact (letter_spec (h c hc)).1
  · decide

theorem mem_letters_decodeLatin1 (bs : Bytes) :
    ∀ c ∈ (decodeLatin1 (Base64.encode .urlSafe bs)).toList, c ∈ Base64.letters := by
  rw [decodeLatin1, String.toList_ofList]
  intro c hc
  obtain ⟨b, hb, rfl⟩ := List.mem_map.mp hc
  exact (Base64.mem_letters_of_mem_encode hb).2

namespace Signer

/-- The payloads that stand for a token: its text in base64, or behind a point the text packed
first. -/
inductive Carries (token : String) : Bytes → Prop where
  | plain : Carries token (Base64.encode .urlSafe (plainText token))
  | packed {z : Bytes} (hunpack : Packed.unpack .zlib z = .ok ⟨plainText token, true⟩) :
      Carries token (46 :: Base64.encode .urlSafe z)

/-- A payload with its signature. -/
def sealed (s : Signer) (p : Bytes) : String :=
  decodeLatin1 p ++ "." ++ decodeLatin1 (Base64.encode .urlSafe (s.signature p))

theorem sign_eq_sealed (s : Signer) (token : String) :
    s.sign token = s.sealed (s.payload token) := rfl

/-- If the text of a token is compressed, it is found again in what the compressor made of it. -/
def Restores (s : Signer) (token : String) : Prop :=
  s.Shortens token → Packed.unpack .zlib (s.compress (plainText token)) =
    .ok ⟨plainText token, true⟩

variable {token : String} {p : Bytes}

theorem carries_payload {s : Signer} (h : s.Restores token) : Carries token (s.payload token) := by
  unfold payload
  split
  · rename_i hshortens
    exact .packed (h hshortens)
  · exact .plain

/-! ## Reading -/

theorem unpack_of_no_point {bs : Bytes} (h : 46 ∉ bs) :
    unpack bs = (Base64.decodeLenient .urlSafe bs).elim (.error .base64) .ok := by
  unfold unpack
  split
  rename_i compressed body hbody
  split at hbody
  · exact absurd List.mem_cons_self h
  · obtain ⟨rfl, rfl⟩ := Prod.mk.inj hbody
    cases Base64.decodeLenient .urlSafe bs with
    | none => rfl
    | some plain => rfl

theorem unpack_of_point {bs z plain : Bytes} (hread : Base64.decodeLenient .urlSafe bs = some z)
    (hunpack : Packed.unpack .zlib z = .ok ⟨plain, true⟩) : unpack (46 :: bs) = .ok plain := by
  unfold unpack
  simp only [hread, hunpack, if_true]

theorem unpack_of_carries (h : Carries token p) : unpack p = .ok (plainText token) := by
  cases h with
  | plain =>
    have hpoint : (46 : UInt8) ∉ Base64.encode .urlSafe (plainText token) :=
      fun hmem => point_notMem_letters (Base64.mem_letters_of_mem_encode hmem).2
    rw [unpack_of_no_point hpoint, Base64.decodeLenient_encode]
    rfl
  | @packed z hunpack => exact unpack_of_point (Base64.decodeLenient_encode .urlSafe z) hunpack

theorem readPayload_of_carries (hsafe : UrlSafe token) (h : Carries token p) :
    readPayload p = .ok (some token) := by
  unfold readPayload
  rw [unpack_of_carries h, plainText]
  dsimp only
  rw [decodeUtf8_encodeUtf8 hsafe.ascii_render]
  dsimp only
  rw [Json.read_render_plain fun c hc => plain_of_mem_letters (hsafe c hc)]
  rfl

theorem ascii_of_carries (h : Carries token p) : ∀ b ∈ p, b.toNat < 128 := by
  cases h with
  | plain => exact fun b hb => (Base64.mem_letters_of_mem_encode hb).1
  | packed hunpack =>
    intro b hb
    rcases List.mem_cons.mp hb with rfl | hb
    · decide
    · exact (Base64.mem_letters_of_mem_encode hb).1

/-- The token of a signed payload is the one that the payload stands for. -/
theorem unsign_sealed (s : Signer) (hsafe : UrlSafe token) (h : Carries token p) :
    s.unsign (s.sealed p) = .ok (some token) := by
  have hpoint : '.' ∉ (decodeLatin1 (Base64.encode .urlSafe (s.signature p))).toList :=
    fun hmem => point_notMem_letters (mem_letters_decodeLatin1 _ '.' hmem)
  have hascii : ∀ b ∈ Base64.encode .urlSafe (s.signature p), b.toNat < 128 :=
    fun b hb => (Base64.mem_letters_of_mem_encode hb).1
  have hcut : cutLast? '.' (s.sealed p) =
      some (decodeLatin1 p, decodeLatin1 (Base64.encode .urlSafe (s.signature p))) :=
    cutLast?_append _ hpoint
  unfold unsign verified?
  rw [hcut]
  dsimp only
  rw [encodeUtf8_decodeLatin1 (ascii_of_carries h), encodeUtf8_decodeLatin1 hascii,
    Base64.decodeLenient_encode]
  dsimp only
  rw [if_pos rfl]
  exact readPayload_of_carries hsafe h

/-! ## Letters -/

/-- A signed payload consists of safe letters and points. -/
theorem mem_sealed (s : Signer) (h : Carries token p) :
    ∀ c ∈ (s.sealed p).toList, c = '.' ∨ c ∈ Base64.letters := by
  have hpayload : ∀ c ∈ (decodeLatin1 p).toList, c = '.' ∨ c ∈ Base64.letters := by
    cases h with
    | plain => exact fun c hc => Or.inr (mem_letters_decodeLatin1 _ c hc)
    | @packed z hunpack =>
      intro c hc
      rw [decodeLatin1, String.toList_ofList, List.map_cons] at hc
      rcases List.mem_cons.mp hc with rfl | hc
      · exact Or.inl (by decide)
      · refine Or.inr (mem_letters_decodeLatin1 z c ?_)
        rw [decodeLatin1, String.toList_ofList]
        exact hc
  intro c hc
  rw [sealed, String.toList_append, String.toList_append, List.mem_append, List.mem_append] at hc
  rcases hc with (hc | hc) | hc
  · exact hpayload c hc
  · exact Or.inl (List.mem_singleton.mp hc)
  · exact Or.inr (mem_letters_decodeLatin1 _ c hc)

theorem sealed_ne_empty (s : Signer) : s.sealed p ≠ "" := by
  intro h
  have hmem : '.' ∈ (s.sealed p).toList := by simp [sealed]
  rw [h] at hmem
  exact absurd hmem (by decide)

end Signer

end Waypost.Access
