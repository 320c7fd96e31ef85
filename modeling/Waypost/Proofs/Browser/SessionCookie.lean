import Waypost.Proofs.Access.Upkeep
import Waypost.Proofs.Access.Wire
import Waypost.Proofs.Browser.Jar

/-!
# A session comes back from the browser

A session leaves as a cookie that a page writes to its jar, among others, and comes back in the text
of all cookies.

* `handedAttributes` : the attributes of cookies that carry sessions; `assign_handed` : what such a
  cookie does to a jar;
* `yields_of_get?`, `yields_of_get?_none` : what requests present that send the text of a jar;
* `wired_resolves` : every value that stands for a token comes back from a jar as that token;
* `sessionCookie_resolves` : the session that was handed out is the one that comes back, until it is
  cleared.
-/

namespace Waypost.Browser

open Access Codec Text Time

/-! ## The attributes of a session's cookie -/

/-- The attributes of a cookie that carries a session. -/
def handedAttributes (n : Int) (secure : Bool) : List String :=
  ["Max-Age=" ++ toString n, "Path=/"] ++ (if secure then ["Secure"] else []) ++
    ["HttpOnly", "SameSite=lax"]

theorem headerText_eq (name value : String) (n : Int) (secure : Bool) :
    SetCookie.headerText { name, value, maxAge := some n, secure } =
      "; ".intercalate (cookiePair (name, value) :: handedAttributes n secure) := by
  cases secure <;> rfl

/-- Of these attributes only the first says when the cookie ends. -/
theorem withAttributes_handed {now t : Instant} {n : Int} {d : Duration} (secure : Bool)
    (hread : Number.readInteger (toString n) = .ok n) (hspan : Duration.ofSeconds n = .ok d)
    (hend : Instant.add now d = .ok t) :
    Expiry.never.withAttributes now (handedAttributes n secure) = .ok (.stamp (.fixed t)) := by
  have hsplit : splitAttribute ("Max-Age=" ++ toString n) = ("Max-Age", toString n) := by
    rw [splitAttribute, show "Max-Age=" = "Max-Age" ++ String.singleton '=' from rfl,
      cut?_append (by decide)]
    rfl
  have hfirst : Expiry.never.withAttribute now ("Max-Age=" ++ toString n) =
      .ok (.stamp (.fixed t)) :=
    Expiry.withAttribute_seconds hsplit (by decide) hread hspan hend
  rw [handedAttributes, List.cons_append, List.cons_append, Expiry.withAttributes_cons _ hfirst]
  refine Expiry.withAttributes_others ?_ ?_
  · cases secure <;> decide
  · cases secure <;> decide

/-- What a cookie that carries a session does to a jar. -/
theorem assign_handed (j : Jar) {name : String} (hname : CookieName name) (value : String)
    (hvalue : CookiePart value) {now t : Instant} {n : Int} {d : Duration} (secure : Bool)
    (hpart : CookiePart ("Max-Age=" ++ toString n))
    (hread : Number.readInteger (toString n) = .ok n) (hspan : Duration.ofSeconds n = .ok d)
    (hend : Instant.add now d = .ok t) :
    j.assign now (SetCookie.headerText { name, value, maxAge := some n, secure }) =
      j.keep now name value (.stamp (.fixed t)) := by
  have hfixed : ∀ a ∈ ["Path=/"] ++ (if secure then ["Secure"] else []) ++
      ["HttpOnly", "SameSite=lax"], CookiePart a := by
    cases secure <;> decide
  have hattrs : ∀ a ∈ handedAttributes n secure, CookiePart a :=
    List.forall_mem_cons.mpr ⟨hpart, hfixed⟩
  rw [headerText_eq]
  exact j.assign_parts hname hvalue hattrs (withAttributes_handed secure hread hspan hend)

/-! ## The text of a jar -/

/-- All cookies of a jar are in ASCII. -/
def Jar.Ascii (j : Jar) : Prop :=
  ∀ p ∈ j.cookies, IsAscii p.1 ∧ IsAscii p.2.value

instance (j : Jar) : Decidable j.Ascii :=
  decidable_of_iff ((j.cookies.all fun p => decide (IsAscii p.1 ∧ IsAscii p.2.value)) = true)
    (by simp [Jar.Ascii])

namespace Jar

variable {j : Jar} {t : Instant}

theorem Ascii.text (h : j.Ascii) (t : Instant) : IsAscii (j.text t) := by
  intro ch hch
  rcases mem_intercalate hch with rfl | rfl | ⟨p, hp, hmem⟩
  · decide
  · decide
  · obtain ⟨q, hq, rfl⟩ := List.mem_map.mp hp
    obtain ⟨kept, hkept, rfl⟩ := List.mem_map.mp hq
    obtain ⟨hname, hvalue⟩ := h kept (List.mem_filter.mp hkept).1
    rw [String.toList_append, String.toList_append, List.mem_append, List.mem_append] at hmem
    rcases hmem with (hmem | hmem) | hmem
    · exact hname ch hmem
    · rw [List.mem_singleton.mp hmem]
      decide
    · exact hvalue ch hmem

theorem Ascii.put (h : j.Ascii) {name : String} {kept : Kept} (hname : IsAscii name)
    (hvalue : IsAscii kept.value) :
    Ascii ⟨Keyed.put name kept j.cookies⟩ := by
  intro p hp
  rcases Keyed.mem_put hp with rfl | hp
  · exact ⟨hname, hvalue⟩
  · exact h p hp

theorem Ascii.erase (h : j.Ascii) (name : String) : Ascii ⟨Keyed.erase name j.cookies⟩ :=
  fun p hp => h p (List.mem_filter.mp hp).1

variable {c : Credentials}

/-- Requests that send the text of a jar present the session of the token that is in it. -/
theorem yields_of_get? (hascii : j.Ascii) {token value : String}
    (hget : j.get? t c.cookieName = some value) (hwires : c.Wires token value)
    (hsafe : UrlSafe token) (htoken : token ≠ "") (s : Store) :
    c.Yields s (j.text t) (s.get? token) := by
  refine ⟨⟨_, encode_ascii .latin1 (hascii.text t)⟩,
    fun scope params r journal hsends hheader hscope => ?_⟩
  obtain ⟨hheaders, hcookies⟩ := cookies_ofScope (hascii.text t) hsends hscope
  refine Credentials.resolve_cookie ?_ ?_ hwires hsafe htoken s journal
  · rw [hheaders]
    exact hheader
  · rw [hcookies]
    exact hget

theorem yields_of_get?_none (hascii : j.Ascii) (hget : j.get? t c.cookieName = none) (s : Store) :
    c.Yields s (j.text t) none := by
  refine ⟨⟨_, encode_ascii .latin1 (hascii.text t)⟩,
    fun scope params r journal hsends hheader hscope => ?_⟩
  obtain ⟨hheaders, hcookies⟩ := cookies_ofScope (hascii.text t) hsends hscope
  refine Credentials.resolve_no_cookie ?_ ?_ s journal
  · rw [hheaders]
    exact hheader
  · rw [hcookies]
    exact hget

end Jar

/-! ## There and back -/

section Handed

variable {c : Credentials} {now : Instant}

theorem add_of_mem (now : Instant) (d : Duration) (hfirst : firstInstant ≤ now + d)
    (hlast : now + d ≤ lastInstant) :
    Instant.add now d = .ok (now + d) := by
  unfold Instant.add
  dsimp only
  rw [if_pos
    (by rw [Bool.and_eq_true, decide_eq_true_eq, decide_eq_true_eq]; exact ⟨hfirst, hlast⟩)]

/-- Writing the cookie of a session keeps it for a week. -/
theorem assign_sessionCookie (j : Jar) {x : Session} {value : String}
    (hname : CookieName c.cookieName) (hwires : c.Wires x.token value) (hsafe : UrlSafe x.token)
    (hfirst : firstInstant ≤ now) (hlast : now + week ≤ lastInstant) :
    j.assign now ({ c.sessionCookie x with value } : SetCookie).headerText =
      .ok ⟨Keyed.put c.cookieName ⟨value, some (now + week)⟩ j.cookies⟩ := by
  have hlater : now < now + week := Int.lt_add_of_pos_right now (by decide)
  have hend := add_of_mem now week (Int.le_trans hfirst (Int.le_of_lt hlater)) hlast
  have hassign := assign_handed j hname value (hwires.part hsafe) c.secure (n := weekSeconds)
    (by decide) rfl rfl hend
  rw [Jar.keep, if_neg (Int.not_le.mpr hlater)] at hassign
  exact hassign

/-- Writing the cookie that clears a session removes it. -/
theorem assign_clearCookie (j : Jar) (hname : CookieName c.cookieName) (hfirst : firstInstant ≤ now)
    (hlast : now ≤ lastInstant) :
    j.assign now c.clearCookie.headerText = .ok ⟨Keyed.erase c.cookieName j.cookies⟩ := by
  have hnow : now + 0 = now := Int.add_zero now
  have hend := add_of_mem now 0 (by rw [hnow]; exact hfirst) (by rw [hnow]; exact hlast)
  have hassign := assign_handed j hname "" (by decide) c.secure (n := 0) (by decide) rfl rfl hend
  rw [Jar.keep, if_pos (Int.le_of_eq hnow)] at hassign
  exact hassign

/-- A value that stands for a token is found in the jar that it was written to, for a week or until
the cookie that clears a session is written. -/
theorem wired_resolves (hname : CookieName c.cookieName) (hascii : IsAscii c.cookieName) {jar : Jar}
    (hwritten : jar.Written) (hjar : jar.Ascii) {x : Session} {value : String}
    (hwires : c.Wires x.token value) (htoken : x.token ≠ "") (hsafe : UrlSafe x.token)
    (hfirst : firstInstant ≤ now) (hlast : now + week ≤ lastInstant) :
    ∃ jar', jar.assign now ({ c.sessionCookie x with value } : SetCookie).headerText = .ok jar' ∧
      (∀ t, now ≤ t → t < now + week → ∀ s : Store, c.Yields s (jar'.text t) (s.get? x.token)) ∧
      ∀ later, now ≤ later → later ≤ lastInstant →
        ∃ jar'', jar'.assign later c.clearCookie.headerText = .ok jar'' ∧
          ∀ t, later ≤ t → ∀ s : Store, c.Yields s (jar''.text t) none := by
  have htidy : Jar.Tidy ⟨Keyed.put c.cookieName ⟨value, some (now + week)⟩ jar.cookies⟩ :=
    hwritten.tidy.put hname (hwires.part hsafe)
  have hput : Jar.Ascii ⟨Keyed.put c.cookieName ⟨value, some (now + week)⟩ jar.cookies⟩ :=
    hjar.put hascii (hwires.ascii hsafe)
  refine ⟨_, assign_sessionCookie jar hname hwires hsafe hfirst hlast, fun t _ hlive s => ?_,
    fun later hlater hrange => ?_⟩
  · refine Jar.yields_of_get? hput ?_ hwires hsafe htoken s
    have hkept : Kept.isLive ⟨value, some (now + week)⟩ t = true := decide_eq_true hlive
    rw [Jar.get?_eq htidy, Keyed.get?_put_self, Option.filter_some, if_pos hkept, Option.map_some]
  · refine ⟨_, assign_clearCookie _ hname (Int.le_trans hfirst hlater) hrange, fun t _ s => ?_⟩
    refine Jar.yields_of_get?_none (hput.erase c.cookieName) ?_ s
    rw [Jar.get?_eq (htidy.erase c.cookieName), Keyed.get?_erase_self]
    rfl

end Handed

/-- A session whose token is not empty and safe in URLs leaves in a cookie, whether it is signed or
not, and a page writes that cookie to a jar that holds other cookies in ASCII. A signer may compress
the token's text; its compressor is only asked that the text is found again in what it made of it.
For a week, whatever request sends the text of the jar as its cookies presents what the store has
for the token. If the store has issued the session and gives no token again, that is the session
until its token is revoked or it is purged after its end, and nothing from then on. Once the cookie
that clears a session is written, the request presents nothing. -/
theorem sessionCookie_resolves (c : Credentials) (hname : CookieName c.cookieName)
    (hascii : IsAscii c.cookieName) {jar : Jar} (hwritten : jar.Written) (hjar : jar.Ascii)
    {x : Session} (htoken : x.token ≠ "") (hsafe : UrlSafe x.token)
    (hrestores : ∀ signer, c.signer = some signer → signer.Restores x.token) {now : Instant}
    (hfirst : firstInstant ≤ now) (hlast : now + week ≤ lastInstant) :
    (∃ jar', jar.assign now (c.sessionCookie x).headerText = .ok jar' ∧
      (∀ t, now ≤ t → t < now + week → ∀ s : Store, c.Yields s (jar'.text t) (s.get? x.token)) ∧
      ∀ later, now ≤ later → later ≤ lastInstant →
        ∃ jar'', jar'.assign later c.clearCookie.headerText = .ok jar'' ∧
          ∀ t, later ≤ t → ∀ s : Store, c.Yields s (jar''.text t) none) ∧
      ∀ (s : Store) issuedAt userId level ttl journal, (Keyed.keys s.sessions).Nodup →
        (∀ n, s.taken < n → s.tokens n ≠ s.tokens s.taken) →
        (s.issue issuedAt userId level ttl journal).1 = .ok x →
          ∀ us, ((s.issue issuedAt userId level ttl journal).2.1.upkeepAll
            (s.issue issuedAt userId level ttl journal).2.2 us).1.get? x.token =
              if us.any (·.removes x) then none else some x := by
  have hwires : c.Wires x.token (c.sessionCookie x).value := c.wires_wireToken x hrestores
  refine ⟨wired_resolves hname hascii hwritten hjar hwires htoken hsafe hfirst hlast,
    fun s issuedAt userId level ttl journal hkeys hfresh hissue us => ?_⟩
  obtain ⟨hlone, hget⟩ := lone_of_issue hkeys hfresh hissue
  rw [get?_upkeepAll hlone, hget]

/-- A signer that knows a short form of one text, on secure connections only. -/
def signedCredentials : Credentials where
  cookieName := "sid"
  signer := some {
    key := [1, 2, 3]
    compress := fun text =>
      if text = Signer.plainText "aaaaaaaaaaaaaaaa" then
        [120, 156, 83, 74, 68, 3, 74, 0, 60, 48, 6, 85]
      else text }
  secure := true

/-- A jar with a cookie whose value looks like another's name. -/
def themedJar : Jar :=
  ⟨[("theme", ⟨"sid=dark", none⟩)]⟩

/-- A store whose tokens get longer and longer. -/
def lengtheningStore : Store where
  tokens := fun n => String.ofList (List.replicate (n + 16) 'a')

/-- The first session of the store, whose token is worth compressing. -/
def lengthySession : Session :=
  ⟨"aaaaaaaaaaaaaaaa", .authenticated, week, "u"⟩

theorem sessionCookie_resolves_themedJar :
    (∃ signer, signedCredentials.signer = some signer ∧ signer.Shortens lengthySession.token) ∧
    ∃ jar' bs r, themedJar.assign 5 (signedCredentials.sessionCookie lengthySession).headerText =
      .ok jar' ∧ encode .latin1 (jar'.text 6) = .ok bs ∧
      Request.ofScope
        { method := some "GET", path := some "/", headers := ⟨[(encodeUtf8 "COOKIE", bs)]⟩ } [] =
          .ok r ∧
      (signedCredentials.resolve (lengtheningStore.issue 0 "u" .authenticated none {}).2.1 r {}).1 =
        .ok (some lengthySession) := by
  have hwrite : Jar.assign {} 0 "theme = sid=dark ; path=/" = .ok themedJar := rfl
  have hkeys : (Keyed.keys lengtheningStore.sessions).Nodup := List.nodup_nil
  have hissue : (lengtheningStore.issue 0 "u" .authenticated none {}).1 = .ok lengthySession := by
    decide +kernel
  have hfresh : ∀ n, lengtheningStore.taken < n →
      lengtheningStore.tokens n ≠ lengtheningStore.tokens lengtheningStore.taken := by
    intro n hn hsame
    have hlength := congrArg String.length hsame
    simp only [lengtheningStore, String.length_ofList, List.length_replicate] at hlength hn
    omega
  have hlast : (5 : Instant) + week ≤ lastInstant := by decide
  have hrestores : ∀ signer, signedCredentials.signer = some signer →
      signer.Restores lengthySession.token := by
    rintro signer ⟨⟩ -
    decide +kernel
  obtain ⟨⟨jar', hassign, hyields, -⟩, hstore⟩ :=
    sessionCookie_resolves signedCredentials (by decide) (by decide)
      (.assign .empty hwrite) (by decide) (show lengthySession.token ≠ "" by decide) (by decide)
      hrestores (by decide) hlast
  obtain ⟨⟨bs, hbytes⟩, hresolve⟩ :=
    hyields 6 (by decide) (by decide) (lengtheningStore.issue 0 "u" .authenticated none {}).2.1
  have hscope : SendsCookies
      { method := some "GET", path := some "/", headers := ⟨[(encodeUtf8 "COOKIE", bs)]⟩ }
      (jar'.text 6) := ⟨_, bs, hbytes, rfl⟩
  have hsession := hresolve _ [] _ {} hscope rfl rfl
  have hget := hstore lengtheningStore 0 "u" .authenticated none {} hkeys hfresh hissue []
  refine ⟨⟨_, rfl, by decide +kernel⟩, jar', bs, _, hassign, hbytes, rfl,
    hsession.trans (congrArg Except.ok hget)⟩

end Waypost.Browser
