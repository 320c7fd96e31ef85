import Mathlib.Tactic.SplitIfs
import Waypost.Access.Credentials
import Waypost.Proofs.Codec.Ascii

/-!
# What a request offers

The token header counts if it is there and not empty, and the session cookie otherwise; a signer
then has to accept what was found. A bad signature in the header does not make the cookie count.

* `headerValue`, `offeredValue`, `offered` : the value and the token that a request offers, read off
  the raw headers and the cookies;
* `presented_eq` : what is looked up is the offered value, where the name of the header is in ASCII;
* `resolve_spec` : the session of a request is the stored one of the token that it offers.
-/

namespace Waypost.Access

open Codec Text

/-- Whether a text is in ASCII. -/
def IsAscii (s : String) : Prop :=
  ∀ c ∈ s.toList, c.toNat < 128

instance (s : String) : Decidable (IsAscii s) :=
  decidable_of_iff ((s.toList.all fun c => decide (c.toNat < 128)) = true) (by simp [IsAscii])

/-- Whether a stored name is a given one but for the case of the letters A to Z. -/
def sameName (stored : Bytes) (name : String) : Bool :=
  stored.map lowerByte = (encodeUtf8 name).map lowerByte

namespace Credentials

/-- The first value of the token header, or nothing at all. -/
def headerValue (c : Credentials) (r : Request) : String :=
  ((r.headers.raw.find? fun p => sameName p.1 c.tokenHeader).map fun p => decodeLatin1 p.2).getD ""

/-- The value that a request offers: that of the header, unless it is empty, or that of the
cookie. -/
def offeredValue (c : Credentials) (r : Request) : String :=
  if c.headerValue r = "" then (Keyed.get? c.cookieName r.cookies).getD "" else c.headerValue r

/-- The token that a request offers, or why what it offers cannot be read. -/
def offered (c : Credentials) (r : Request) : Except PayloadError (Option String) :=
  if c.offeredValue r = "" then .ok none
  else
    match c.signer with
    | none => .ok (some (c.offeredValue r))
    | some signer => signer.unsign (c.offeredValue r)

end Credentials

/-! ## Names in ASCII -/

theorem foldKey_ascii {name : String} (h : IsAscii name) :
    Headers.foldKey name = .ok ((encodeUtf8 name).map lowerByte) := by
  have hname : decodeLatin1 (encodeUtf8 name) = name := decodeLatin1_encodeUtf8 h
  have hbytes : ∀ b ∈ encodeUtf8 name, b.toNat < 128 := by
    rw [encodeUtf8_ascii h]
    intro b hb
    obtain ⟨c, hc, rfl⟩ := List.mem_map.mp hb
    rw [toNat_ofNat_ascii (h c hc)]
    exact h c hc
  have hlower : (encodeUtf8 name).map lowerLatin1 = (encodeUtf8 name).map lowerByte :=
    List.map_congr_left fun b hb => lowerLatin1_ascii (hbytes b hb)
  rw [Headers.foldKey, ← hname, lower_decodeLatin1, encode_decodeLatin1, hname, hlower]

/-! ## Looking the session up -/

namespace Credentials

theorem headers_get? (c : Credentials) (r : Request) (h : IsAscii c.tokenHeader) :
    r.headers.get? c.tokenHeader =
      .ok ((r.headers.raw.find? fun p => sameName p.1 c.tokenHeader).map fun p =>
        decodeLatin1 p.2) := by
  unfold Headers.get? Headers.getAll
  rw [foldKey_ascii h]
  dsimp only
  rw [Headers.valuesOf, List.head?_map, List.head?_filter]
  rfl

theorem nonEmpty?_eq (s : Option String) :
    nonEmpty? s = if s.getD "" = "" then none else some (s.getD "") := by
  unfold nonEmpty?
  cases s with
  | none => rfl
  | some t =>
    rw [Option.filter_some, Option.getD_some]
    by_cases h : t = ""
    · rw [if_pos h, h]
      rfl
    · rw [if_neg h, if_pos (by simpa [String.isEmpty_iff] using h)]

/-- What is looked up is the offered value. -/
theorem presented_eq (c : Credentials) (r : Request) (h : IsAscii c.tokenHeader) :
    c.presented r = .ok (if c.offeredValue r = "" then none else some (c.offeredValue r)) := by
  unfold presented offeredValue
  rw [c.headers_get? r h]
  dsimp only
  rw [nonEmpty?_eq, nonEmpty?_eq, ← headerValue]
  split_ifs <;> rfl

variable {c : Credentials} {r : Request}

/-- The token of the offered value, with the report of a bad signature. -/
theorem token_spec (hfound : c.offeredValue r ≠ "") (j : Journal) :
    ∃ j', c.token r (c.offeredValue r) j = ((c.offered r).mapError .payload, j') ∧
      (c.offered r ≠ .ok none → j' = j) := by
  unfold token offered
  rw [if_neg hfound]
  cases c.signer with
  | none => exact ⟨j, rfl, fun _ => rfl⟩
  | some signer =>
    dsimp only
    cases signer.unsign (c.offeredValue r) with
    | error err => exact ⟨j, rfl, fun _ => rfl⟩
    | ok t =>
      cases t with
      | none => exact ⟨_, rfl, fun hne => absurd rfl hne⟩
      | some t => exact ⟨j, rfl, fun _ => rfl⟩

/-- The session of a request is the stored one of the token that it offers. -/
theorem resolve_spec (h : IsAscii c.tokenHeader) (s : Store) (j : Journal) :
    ∃ j', c.resolve s r j = (((c.offered r).mapError .payload).map fun t => t.bind s.get?, j') ∧
      (c.offered r ≠ .ok none → j' = j) := by
  unfold resolve
  rw [c.presented_eq r h]
  by_cases hempty : c.offeredValue r = ""
  · have hnone : c.offered r = .ok none := if_pos hempty
    rw [if_pos hempty, hnone]
    exact ⟨j, rfl, fun _ => rfl⟩
  · obtain ⟨j', htoken, hj⟩ := token_spec hempty j
    rw [if_neg hempty]
    dsimp only
    rw [htoken]
    refine ⟨j', ?_, hj⟩
    cases c.offered r with
    | error err => rfl
    | ok t => rfl

theorem resolve_of_error {err : PayloadError} (h : IsAscii c.tokenHeader)
    (hoffer : c.offered r = .error err) (s : Store) (j : Journal) :
    c.resolve s r j = (.error (.payload err), j) := by
  obtain ⟨j', hresolve, hj⟩ := resolve_spec (r := r) h s j
  rw [hoffer] at hresolve hj
  rw [hresolve, hj (by simp)]
  rfl

theorem resolve_of_token {t : String} (h : IsAscii c.tokenHeader)
    (hoffer : c.offered r = .ok (some t)) (s : Store) (j : Journal) :
    c.resolve s r j = (.ok (s.get? t), j) := by
  obtain ⟨j', hresolve, hj⟩ := resolve_spec (r := r) h s j
  rw [hoffer] at hresolve hj
  rw [hresolve, hj (by simp)]
  rfl

theorem resolve_of_none (h : IsAscii c.tokenHeader) (hoffer : c.offered r = .ok none) (s : Store)
    (j : Journal) : ∃ j', c.resolve s r j = (.ok none, j') := by
  obtain ⟨j', hresolve, -⟩ := resolve_spec (r := r) h s j
  rw [hoffer] at hresolve
  exact ⟨j', hresolve⟩

end Credentials

end Waypost.Access
