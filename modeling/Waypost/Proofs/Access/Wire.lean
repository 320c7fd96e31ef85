import Waypost.Proofs.Access.Offer
import Waypost.Proofs.Access.SignedToken
import Waypost.Proofs.Message.Cookie

/-!
# Tokens in cookies

* `Credentials.Wires` : the values that stand for a token, signed or not; `Wires.unwraps` : the
  token is found in them;
* `wires_wireToken` : the value that is sent for a session is one of them, if what the signer
  compresses can be found again;
* `SendsCookies` : a request sends a text as its cookies; `cookies_ofScope` : and has the cookies of
  that text;
* `resolve_cookie`, `resolve_no_cookie` : what such a request presents;
* `Credentials.Yields` : the same for all requests that send a text.
-/

namespace Waypost.Access

open Codec Text

/-- The scope says that a text was sent as the cookies of the request. -/
def SendsCookies (scope : Scope) (text : String) : Prop :=
  ∃ name bs, encode .latin1 text = .ok bs ∧
    (scope.headers.raw.find? fun p => sameName p.1 "cookie") = some (name, bs)

theorem first?_cookie {scope : Scope} {text : String} (hascii : IsAscii text)
    (h : SendsCookies scope text) :
    scope.headers.first? "cookie" = some text := by
  obtain ⟨name, bs, hencode, hfind⟩ := h
  have hbytes : bs = encodeUtf8 text :=
    Except.ok.inj (hencode.symm.trans (encode_ascii .latin1 hascii))
  have hlower : (encodeUtf8 "cookie").map lowerByte = encodeUtf8 "cookie" := by decide
  have hsame : (fun p : Bytes × Bytes => decide (Headers.foldName p.1 = encodeUtf8 "cookie")) =
      fun p => sameName p.1 "cookie" := by
    funext p
    rw [sameName, hlower]
    rfl
  rw [Headers.first?, Headers.valuesOf, List.head?_map, List.head?_filter, hsame, hfind,
    Option.map_some, hbytes, decodeLatin1_encodeUtf8 hascii]

theorem cookies_ofScope {scope : Scope} {text : String} {params : List (String × String)}
    {r : Request} (hascii : IsAscii text) (h : SendsCookies scope text)
    (hscope : Request.ofScope scope params = .ok r) :
    r.headers = scope.headers ∧ r.cookies = parseCookies text := by
  unfold Request.ofScope at hscope
  split at hscope
  · cases hscope
  · cases hscope
  · rw [← Except.ok.inj hscope]
    refine ⟨rfl, ?_⟩
    dsimp only
    rw [first?_cookie hascii h, Option.getD_some]

namespace Credentials

variable {c : Credentials} {r : Request}

/-- The values that stand for a token: itself, or signed. -/
def Wires (c : Credentials) (token value : String) : Prop :=
  match c.signer with
  | none => value = token
  | some signer => ∃ p, Signer.Carries token p ∧ value = signer.sealed p

theorem wires_wireToken (c : Credentials) (s : Session)
    (hrestores : ∀ signer, c.signer = some signer → signer.Restores s.token) :
    c.Wires s.token (c.wireToken s) := by
  unfold Wires wireToken
  cases hsigner : c.signer with
  | none => rfl
  | some signer =>
    exact ⟨signer.payload s.token, Signer.carries_payload (hrestores signer hsigner),
      signer.sign_eq_sealed s.token⟩

variable {token value : String}

/-- A value that stands for a token consists of safe letters and points. -/
theorem Wires.letters (h : c.Wires token value) (hsafe : UrlSafe token) :
    ∀ ch ∈ value.toList, ch = '.' ∨ ch ∈ Base64.letters := by
  unfold Wires at h
  split at h
  · rw [h]
    exact fun ch hch => Or.inr (hsafe ch hch)
  · rename_i signer hsigner
    obtain ⟨p, hcarries, rfl⟩ := h
    exact signer.mem_sealed hcarries

theorem Wires.nonempty (h : c.Wires token value) (htoken : token ≠ "") : value ≠ "" := by
  unfold Wires at h
  split at h
  · rw [h]
    exact htoken
  · rename_i signer hsigner
    obtain ⟨p, -, rfl⟩ := h
    exact signer.sealed_ne_empty

theorem Wires.unwraps (h : c.Wires token value) (hsafe : UrlSafe token) (r : Request)
    (j : Journal) : c.token r value j = (.ok (some token), j) := by
  unfold Wires at h
  unfold Credentials.token
  cases hsigner : c.signer with
  | none =>
    rw [hsigner] at h
    rw [show value = token from h]
  | some signer =>
    rw [hsigner] at h
    obtain ⟨p, hcarries, rfl⟩ := h
    dsimp only
    rw [signer.unsign_sealed hsafe hcarries]

theorem Wires.ascii (h : c.Wires token value) (hsafe : UrlSafe token) : IsAscii value := by
  intro ch hch
  rcases h.letters hsafe ch hch with rfl | hletter
  · decide
  · exact (letter_spec hletter).1

theorem Wires.part (h : c.Wires token value) (hsafe : UrlSafe token) : CookiePart value := by
  refine ⟨bare_of_forall fun ch hch => ?_, fun hmem => ?_⟩
  · rcases h.letters hsafe ch hch with rfl | hletter
    · decide
    · exact (letter_spec hletter).2.2.1
  · rcases h.letters hsafe ';' hmem with hpoint | hletter
    · exact absurd hpoint (by decide)
    · exact (letter_spec hletter).2.2.2 (by decide)

/-! ## Presenting a cookie -/

/-- Without the token header, the cookie counts. -/
theorem presented_cookie (hheader : r.headers.get? c.tokenHeader = .ok none) :
    c.presented r = .ok (nonEmpty? (Keyed.get? c.cookieName r.cookies)) := by
  unfold presented
  rw [hheader]
  rfl

theorem resolve_cookie (hheader : r.headers.get? c.tokenHeader = .ok none)
    (hcookie : Keyed.get? c.cookieName r.cookies = some value) (hwires : c.Wires token value)
    (hsafe : UrlSafe token) (htoken : token ≠ "") (s : Store) (j : Journal) :
    (c.resolve s r j).1 = .ok (s.get? token) := by
  unfold resolve
  rw [presented_cookie hheader, hcookie, nonEmpty?_eq, Option.getD_some,
    if_neg (hwires.nonempty htoken)]
  dsimp only
  rw [hwires.unwraps hsafe]
  rfl

theorem resolve_no_cookie (hheader : r.headers.get? c.tokenHeader = .ok none)
    (hcookie : Keyed.get? c.cookieName r.cookies = none) (s : Store) (j : Journal) :
    (c.resolve s r j).1 = .ok none := by
  unfold resolve
  rw [presented_cookie hheader, hcookie]
  rfl

/-- The text can be sent, and the requests that send it as their cookies, without the token header,
present `result`. -/
def Yields (c : Credentials) (s : Store) (text : String) (result : Option Session) : Prop :=
  (∃ bs, encode .latin1 text = .ok bs) ∧
    ∀ scope params r j, SendsCookies scope text → scope.headers.get? c.tokenHeader = .ok none →
      Request.ofScope scope params = .ok r → (c.resolve s r j).1 = .ok result

end Credentials

end Waypost.Access
