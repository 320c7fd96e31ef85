import Waypost.Browser.Credential
import Waypost.Proofs.Browser.SessionCookie

/-!
# The session is what the cookie backs

A page remembers a session, and the token that stood for it. The jar with the cookie is shared:
whoever else writes to it, and the clock, may take the cookie away or put another one in its place.

* `Jar.liveValue?` : the value of a kept cookie that is live; `Wallet.token?_eq` : this is what the
  page reads;
* `WalletCall` : what happens to a page; `Note`, `notes` : what is told of it;
* `Wallet.Remembers` : the page has the session that was told of last; `perform_sound`,
  `performAll_sound` : this holds along every run;
* `signedIn_iff_backed` : the page is signed in with a session just if its cookie backs it.
-/

namespace Waypost.Browser

open Access Text Time

/-! ## Cookies that a page writes -/

theorem PageCookie.text_seconds (key value : String) (n : Int) :
    PageCookie.text { key, value, lifetime := .seconds (some n) } =
      "; ".intercalate [cookiePair (key, value), "max-age=" ++ toString n, "path=/"] := by
  change key ++ "=" ++ value ++ "; " ++ ("max-age=" ++ toString n) ++ "" ++
    ("; " ++ "path=/") ++ "" =
    key ++ "=" ++ value ++ "; " ++ ("max-age=" ++ toString n) ++ "; " ++ "path=/"
  simp only [String.append_empty, String.append_assoc]

namespace Jar

variable {j : Jar} {now : Instant}

/-- The value of a cookie that is kept and live. -/
def liveValue? (j : Jar) (now : Instant) (name : String) : Option String :=
  ((Keyed.get? name j.cookies).filter fun c => c.isLive now).map Kept.value

/-- Writing a cookie for a number of seconds. -/
theorem write_seconds (j : Jar) {key value : String} (hkey : CookieName key)
    (hvalue : CookiePart value) {n : Int} {d : Duration} {t : Instant}
    (hpart : CookiePart ("max-age=" ++ toString n))
    (hread : Number.readInteger (toString n) = .ok n) (hspan : Duration.ofSeconds n = .ok d)
    (hend : Instant.add now d = .ok t) :
    j.write now { key, value, lifetime := .seconds (some n) } =
      j.keep now key value (.stamp (.fixed t)) := by
  have hsplit : splitAttribute ("max-age=" ++ toString n) = ("max-age", toString n) := by
    rw [splitAttribute, show "max-age=" = "max-age" ++ String.singleton '=' from rfl,
      cut?_append (by decide)]
    rfl
  have hexpiry : Expiry.never.withAttributes now ["max-age=" ++ toString n, "path=/"] =
      .ok (.stamp (.fixed t)) := by
    rw [Expiry.withAttributes_cons _
      (Expiry.withAttribute_seconds hsplit (by decide) hread hspan hend)]
    exact Expiry.withAttributes_others (by decide) (by decide)
  rw [write, PageCookie.text_seconds]
  exact j.assign_parts hkey hvalue (List.forall_mem_cons.mpr ⟨hpart, by decide⟩) hexpiry

end Jar

namespace Wallet

variable {w : Wallet} {now : Instant}

/-- The page reads its cookie from the text of all. -/
theorem token?_eq (hjar : w.jar.Tidy) : w.token? now = w.jar.liveValue? now w.cookieName :=
  Jar.get?_eq hjar w.cookieName

/-- The token that signing in writes. -/
def wireOf (s : Session) (token : Option String) : String :=
  (token.filter fun t => !t.isEmpty).getD s.token

theorem tokenToWrite_some (s : Session) (token : Option String) :
    tokenToWrite (some s) token = .ok (wireOf s token) := by
  unfold tokenToWrite wireOf
  cases token.filter fun t => !t.isEmpty <;> rfl

/-- Signing in writes the cookie, for a week. -/
theorem signIn_of_clean (hname : CookieName w.cookieName) (s : Session) {token : Option String}
    (hwire : CookiePart (wireOf s token)) (hfirst : firstInstant ≤ now)
    (hlast : now + week ≤ lastInstant) :
    w.signIn now (some s) token =
      .ok { w with
        jar := ⟨Keyed.put w.cookieName ⟨wireOf s token, some (now + week)⟩ w.jar.cookies⟩
        session := some s
        wireToken := some (wireOf s token) } := by
  have hlater : now < now + week := Int.lt_add_of_pos_right now (by decide)
  have hend := add_of_mem now week (Int.le_trans hfirst (Int.le_of_lt hlater)) hlast
  have hwrite := w.jar.write_seconds hname hwire (n := weekSeconds) (by decide) rfl rfl hend
  rw [Jar.keep, if_neg (Int.not_le.mpr hlater)] at hwrite
  unfold signIn
  rw [tokenToWrite_some]
  dsimp only
  rw [hwrite]

/-- Signing out removes the cookie. -/
theorem signOut_of_clean (hname : CookieName w.cookieName) (hfirst : firstInstant ≤ now)
    (hlast : now ≤ lastInstant) :
    w.signOut now = .ok { w with
      jar := ⟨Keyed.erase w.cookieName w.jar.cookies⟩, session := none, wireToken := none } := by
  have hnow : now + 0 = now := Int.add_zero now
  have hend := add_of_mem now 0 (by rw [hnow]; exact hfirst) (by rw [hnow]; exact hlast)
  have hwrite :=
    w.jar.write_seconds hname (show CookiePart "" by decide) (n := 0) (by decide) rfl rfl hend
  rw [Jar.keep, if_pos (Int.le_of_eq hnow)] at hwrite
  unfold signOut
  rw [hwrite]
  rfl

/-! ## What a call does to a wallet -/

theorem of_signIn {s : Session} {token : Option String} {w' : Wallet} (hjar : w.jar.Tidy)
    (h : w.signIn now (some s) token = .ok w') :
    w'.jar.Tidy ∧ w'.cookieName = w.cookieName ∧ w'.session = some s ∧
      w'.wireToken = some (wireOf s token) := by
  unfold signIn at h
  rw [tokenToWrite_some] at h
  dsimp only at h
  split at h
  · cases h
  · rename_i jar hwrite
    cases h
    exact ⟨hjar.assign hwrite, rfl, rfl, rfl⟩

theorem of_signOut {w' : Wallet} (hjar : w.jar.Tidy) (h : w.signOut now = .ok w') :
    w'.jar.Tidy ∧ w'.cookieName = w.cookieName ∧ w'.session = none := by
  unfold signOut at h
  split at h
  · cases h
  · rename_i jar hwrite
    cases h
    exact ⟨hjar.assign hwrite, rfl, rfl⟩

/-- A page takes a session over under the cookie that is there, unless it is empty. -/
theorem adopt_cases (hjar : w.jar.Tidy) (now : Instant) (s : Session) :
    (∃ wire, w.jar.liveValue? now w.cookieName = some wire ∧
        w.adopt now (some s) = (true, { w with session := some s, wireToken := some wire })) ∨
      w.adopt now (some s) = (false, w) := by
  unfold adopt
  rw [token?_eq hjar]
  cases hlive : w.jar.liveValue? now w.cookieName with
  | none => exact Or.inr rfl
  | some wire =>
    rw [Option.filter_some]
    by_cases hempty : wire.isEmpty
    · rw [hempty]
      exact Or.inr rfl
    · rw [Bool.eq_false_iff.mpr hempty]
      exact Or.inl ⟨wire, rfl, rfl⟩

/-- The page finds its session, or forgets it, or does not get to remove the cookie of one that has
ended. -/
theorem current_cases (w : Wallet) (now : Instant) (j : Journal) :
    (∃ s, w.session = some s ∧ w.token? now = w.wireToken ∧ now < s.expiresAt ∧
      w.current now j = (.ok (some s), w, j)) ∨ (∃ w' j', w.current now j = (.ok none, w', j') ∧
        w'.session = none ∧ (w' = w ∨ w' = w.forget ∨ w.signOut now = .ok w')) ∨
      ∃ f j', w.signOut now = .error f ∧ w.current now j = (.error f, w, j') := by
  unfold current
  cases hsession : w.session with
  | none => exact Or.inr (Or.inl ⟨w, j, rfl, hsession, Or.inl rfl⟩)
  | some s =>
    dsimp only
    split_ifs with htoken hexpired
    · exact Or.inr (Or.inl ⟨_, _, rfl, rfl, Or.inr (Or.inl rfl)⟩)
    · right
      cases hout : w.signOut now with
      | error f => exact Or.inr ⟨f, _, rfl, rfl⟩
      | ok w' =>
        refine Or.inl ⟨w', _, rfl, ?_, Or.inr (Or.inr rfl)⟩
        unfold signOut at hout
        split at hout
        · cases hout
        · cases hout
          rfl
    · left
      refine ⟨s, rfl, not_not.mp htoken, ?_, rfl⟩
      simpa [Session.isExpired] using hexpired

theorem current_eq_ok_some_iff {j : Journal} {s : Session} :
    (w.current now j).1 = .ok (some s) ↔ w.session = some s ∧ w.token? now = w.wireToken ∧
      now < s.expiresAt := by
  constructor
  · intro h
    rcases w.current_cases now j with
      ⟨t, hsession, htoken, hlive, hcurrent⟩ | ⟨w', j', hcurrent, -, -⟩ | ⟨f, j', -, hcurrent⟩
    · rw [hcurrent] at h
      obtain rfl := Option.some.inj (Except.ok.inj h)
      exact ⟨hsession, htoken, hlive⟩
    · rw [hcurrent] at h
      cases h
    · rw [hcurrent] at h
      cases h
  · rintro ⟨hsession, htoken, hlive⟩
    have hexpired : ¬ s.isExpired now := by simpa [Session.isExpired] using hlive
    unfold current
    rw [hsession]
    dsimp only
    rw [if_neg (not_not.mpr htoken), if_neg hexpired]

end Wallet

/-! ## Calls and notes -/

/-- The wallet of a page, the time on the clock that it shares with its jar, and the journal. -/
structure Pocket where
  wallet : Wallet
  now : Instant
  journal : Journal := {}

/-- What happens to the wallet of a page. Texts are written to its jar by anybody. -/
inductive WalletCall where
  | signIn (s : Session) (token : Option String)
  | adopt (s : Session)
  | signOut
  | current
  | assign (text : String)
  | clock (now : Instant)

/-- What is told of a call: it has cached a session under a token, or it has cleared the cookie, or
it has found nobody signed in. -/
inductive Note where
  | cached (s : Session) (wire : String)
  | cleared
  | missed
deriving DecidableEq

/-- The wallet has the session that was last cached, with its token, if nothing else has been told
since. -/
def Wallet.Remembers (w : Wallet) : Option Note → Prop
  | some (.cached s wire) => w.session = some s ∧ w.wireToken = some wire
  | _ => w.session = none

namespace WalletCall

/-- What comes of a call. One that ends with a fault counts as not made; there is no time but the
instants. -/
def perform (p : Pocket) : WalletCall → Pocket
  | .signIn s token =>
    match p.wallet.signIn p.now (some s) token with
    | .error _ => p
    | .ok wallet => { p with wallet }
  | .adopt s => { p with wallet := (p.wallet.adopt p.now (some s)).2 }
  | .signOut =>
    match p.wallet.signOut p.now with
    | .error _ => p
    | .ok wallet => { p with wallet }
  | .current =>
    match p.wallet.current p.now p.journal with
    | (.error _, _) => p
    | (.ok _, wallet, journal) => { p with wallet, journal }
  | .assign text =>
    match p.wallet.jar.assign p.now text with
    | .error _ => p
    | .ok jar => { p with wallet := { p.wallet with jar } }
  | .clock now => if firstInstant ≤ now ∧ now ≤ lastInstant then { p with now } else p

/-- What is told of a call. The token is the one that was written, or the one that was there. -/
def note (p : Pocket) : WalletCall → Option Note
  | .signIn s token =>
    match p.wallet.signIn p.now (some s) token with
    | .error _ => none
    | .ok _ => some (.cached s (Wallet.wireOf s token))
  | .adopt s =>
    if (p.wallet.adopt p.now (some s)).1 then
      (p.wallet.jar.liveValue? p.now p.wallet.cookieName).map (.cached s)
    else none
  | .signOut =>
    match p.wallet.signOut p.now with
    | .error _ => none
    | .ok _ => some .cleared
  | .current =>
    match (p.wallet.current p.now p.journal).1 with
    | .ok none => some .missed
    | _ => none
  | .assign _ | .clock _ => none

/-- What comes of calls in order. -/
def performAll (p : Pocket) (calls : List WalletCall) : Pocket :=
  calls.foldl perform p

/-- What is told of calls in order. -/
def notes (p : Pocket) : List WalletCall → List Note
  | [] => []
  | c :: cs => (note p c).toList ++ notes (perform p c) cs

end WalletCall

/-! ## Runs -/

/-- A page with a cookie of a given name, and the last note about it. -/
structure Pocket.Sound (p : Pocket) (name : String) (last : Option Note) : Prop where
  jar : p.wallet.jar.Tidy
  name : p.wallet.cookieName = name
  after : firstInstant ≤ p.now
  before : p.now ≤ lastInstant
  remembers : p.wallet.Remembers last

namespace WalletCall

variable {p : Pocket} {name : String} {last : Option Note}

theorem perform_sound (h : p.Sound name last) (c : WalletCall) :
    (perform p c).Sound name ((note p c).or last) := by
  cases c with
  | signIn s token =>
    rw [perform, note]
    cases hin : p.wallet.signIn p.now (some s) token with
    | error f => exact h
    | ok wallet =>
      obtain ⟨hjar, hname, hsession, hwire⟩ := Wallet.of_signIn h.jar hin
      exact ⟨hjar, hname.trans h.name, h.after, h.before, hsession, hwire⟩
  | adopt s =>
    rw [perform, note]
    rcases Wallet.adopt_cases h.jar p.now s with ⟨wire, hlive, hadopt⟩ | hadopt
    · rw [hadopt, if_pos rfl, hlive]
      exact ⟨h.jar, h.name, h.after, h.before, rfl, rfl⟩
    · rw [hadopt]
      exact h
  | signOut =>
    rw [perform, note]
    cases hout : p.wallet.signOut p.now with
    | error f => exact h
    | ok wallet =>
      obtain ⟨hjar, hname, hsession⟩ := Wallet.of_signOut h.jar hout
      exact ⟨hjar, hname.trans h.name, h.after, h.before, hsession⟩
  | current =>
    rw [perform, note]
    rcases p.wallet.current_cases p.now p.journal with
      ⟨s, -, -, -, hcurrent⟩ | ⟨w', j', hcurrent, hsession, hw'⟩ | ⟨f, j', -, hcurrent⟩
    · rw [hcurrent]
      exact h
    · rw [hcurrent]
      have hkept : w'.jar.Tidy ∧ w'.cookieName = p.wallet.cookieName := by
        rcases hw' with rfl | rfl | hout
        · exact ⟨h.jar, rfl⟩
        · exact ⟨h.jar, rfl⟩
        · obtain ⟨hjar, hname, -⟩ := Wallet.of_signOut h.jar hout
          exact ⟨hjar, hname⟩
      exact ⟨hkept.1, hkept.2.trans h.name, h.after, h.before, hsession⟩
    · rw [hcurrent]
      exact h
  | assign text =>
    rw [perform, note]
    cases hassign : p.wallet.jar.assign p.now text with
    | error f => exact h
    | ok jar => exact ⟨h.jar.assign hassign, h.name, h.after, h.before, h.remembers⟩
  | clock now =>
    rw [perform, note]
    split_ifs with hrange
    · exact ⟨h.jar, h.name, hrange.1, hrange.2, h.remembers⟩
    · exact h

theorem performAll_sound (h : p.Sound name last) (calls : List WalletCall) :
    (performAll p calls).Sound name ((notes p calls).getLast?.or last) := by
  induction calls generalizing p last with
  | nil => exact h
  | cons c cs ih =>
    have hlast : (notes p (c :: cs)).getLast?.or last =
        (notes (perform p c) cs).getLast?.or ((note p c).or last) := by
      rw [notes, List.getLast?_append, Option.or_assoc]
      cases note p c <;> rfl
    rw [hlast]
    exact ih (perform_sound h c)

end WalletCall

namespace Pocket

/-- A page on which nobody has signed in yet. Its jar may be in use. -/
def fresh (jar : Jar) (name : String) (now : Instant) (journal : Journal) : Pocket where
  wallet := { jar, cookieName := name }
  now := now
  journal := journal

/-- Who is signed in. -/
def signedIn (p : Pocket) : Except Fault (Option Session) :=
  (p.wallet.current p.now p.journal).1

/-- The value of the session cookie, if it is live. -/
def cookie? (p : Pocket) : Option String :=
  p.wallet.jar.liveValue? p.now p.wallet.cookieName

theorem sound_fresh {jar : Jar} (hjar : jar.Written) (name : String) {now : Instant}
    (hfirst : firstInstant ≤ now) (hlast : now ≤ lastInstant) (journal : Journal) :
    (fresh jar name now journal).Sound name none :=
  ⟨hjar.tidy, rfl, hfirst, hlast, rfl⟩

namespace Sound

variable {p : Pocket} {name : String} {last : Option Note}

theorem signedIn_eq_some_iff (h : p.Sound name last) (s : Session) :
    p.signedIn = .ok (some s) ↔ ∃ wire, last = some (.cached s wire) ∧ p.cookie? = some wire ∧
      p.now < s.expiresAt := by
  have hremembers := h.remembers
  rw [signedIn, Wallet.current_eq_ok_some_iff, Wallet.token?_eq h.jar]
  unfold Wallet.Remembers at hremembers
  split at hremembers
  · rename_i t wire
    obtain ⟨hsession, hwire⟩ := hremembers
    rw [hsession, hwire]
    constructor
    · rintro ⟨⟨⟩, hlive, hnow⟩
      exact ⟨wire, rfl, hlive, hnow⟩
    · rintro ⟨wire', ⟨rfl, rfl⟩, hlive, hnow⟩
      exact ⟨rfl, hlive, hnow⟩
  · rename_i hother
    rw [hremembers]
    constructor
    · rintro ⟨⟨⟩, -⟩
    · rintro ⟨wire, rfl, -⟩
      exact absurd rfl (hother s wire)

theorem signedIn_eq_none (h : p.Sound name last) (hlast : ∀ s wire, last ≠ some (.cached s wire)) :
    p.signedIn = .ok none := by
  have hsession : p.wallet.session = none := by
    have hremembers := h.remembers
    unfold Wallet.Remembers at hremembers
    split at hremembers
    · rename_i s wire
      exact absurd rfl (hlast s wire)
    · exact hremembers
  unfold signedIn Wallet.current
  rw [hsession]

/-- With a clean name the page always finds out who is signed in. -/
theorem exists_signedIn (h : p.Sound name last) (hname : CookieName name) :
    ∃ r, p.signedIn = .ok r := by
  rw [← h.name] at hname
  unfold signedIn
  rcases p.wallet.current_cases p.now p.journal with
    ⟨s, -, -, -, hcurrent⟩ | ⟨w', j', hcurrent, -, -⟩ | ⟨f, j', hout, -⟩
  · exact ⟨some s, congrArg Prod.fst hcurrent⟩
  · exact ⟨none, congrArg Prod.fst hcurrent⟩
  · rw [Wallet.signOut_of_clean hname h.after h.before] at hout
    cases hout

/-- With a clean name and a clean token the page signs in, and its cookie is there. -/
theorem signIn_clean (h : p.Sound name last) (hname : CookieName name) {s : Session}
    {token : Option String} (hwire : CookiePart (Wallet.wireOf s token))
    (hweek : p.now + week ≤ lastInstant) :
    WalletCall.note p (.signIn s token) = some (.cached s (Wallet.wireOf s token)) ∧
      (WalletCall.perform p (.signIn s token)).cookie? = some (Wallet.wireOf s token) := by
  rw [← h.name] at hname
  have hin := Wallet.signIn_of_clean hname s hwire h.after hweek
  have hlive : Kept.isLive ⟨Wallet.wireOf s token, some (p.now + week)⟩ p.now = true :=
    decide_eq_true (Int.lt_add_of_pos_right p.now (by decide))
  rw [WalletCall.note, WalletCall.perform, hin]
  refine ⟨rfl, ?_⟩
  rw [cookie?, Jar.liveValue?, Keyed.get?_put_self, Option.filter_some, if_pos hlive,
    Option.map_some]

end Sound

end Pocket

namespace WalletCall

/-- Whatever is done on a page, and whatever is written to its jar, it is signed in with a session
just if that was the last one to be cached, nobody has been signed out nor found missing since, the
cookie holds the token that was recorded with it, and it has not ended. Once nobody is signed in it
stays like that until a session is cached again. If the cookie has a clean name then the page always
finds out who is signed in, and a session with a clean token can be cached. -/
theorem signedIn_iff_backed {jar : Jar} (hjar : jar.Written) (name : String) {now : Instant}
    (hfirst : firstInstant ≤ now) (hlast : now ≤ lastInstant) (journal : Journal)
    (calls : List WalletCall) {p : Pocket}
    (hrun : performAll (.fresh jar name now journal) calls = p) :
    (∀ s, p.signedIn = .ok (some s) ↔
        ∃ wire, (notes (.fresh jar name now journal) calls).getLast? = some (.cached s wire) ∧
          p.cookie? = some wire ∧ p.now < s.expiresAt) ∧
      (p.signedIn = .ok none →
        ∀ later, (∀ s wire, .cached s wire ∉ notes (perform p .current) later) →
        (performAll (perform p .current) later).signedIn = .ok none) ∧
      (CookieName name → (∃ r, p.signedIn = .ok r) ∧
        ∀ s token, CookiePart (Wallet.wireOf s token) → p.now + week ≤ lastInstant →
          note p (.signIn s token) = some (.cached s (Wallet.wireOf s token)) ∧
            (perform p (.signIn s token)).cookie? = some (Wallet.wireOf s token)) := by
  have hsound : p.Sound name (notes (.fresh jar name now journal) calls).getLast? := by
    have h := performAll_sound (Pocket.sound_fresh hjar name hfirst hlast journal) calls
    rwa [hrun, Option.or_none] at h
  refine ⟨hsound.signedIn_eq_some_iff, fun hnone later hlater => ?_,
    fun hname => ⟨hsound.exists_signedIn hname, ?_⟩⟩
  · -- Having found nobody is what is told last, and nothing that is told later says that a session
    -- was cached.
    have hmissed : note p .current = some .missed := by
      rw [note, show (p.wallet.current p.now p.journal).1 = .ok none from hnone]
    have hafter := performAll_sound (perform_sound hsound .current) later
    refine hafter.signedIn_eq_none fun s wire hcached => ?_
    rw [hmissed, Option.some_or] at hcached
    cases hlast : (notes (perform p .current) later).getLast? with
    | none =>
      rw [hlast] at hcached
      cases hcached
    | some m =>
      rw [hlast, Option.some_or] at hcached
      cases hcached
      exact hlater s wire (List.mem_of_getLast? hlast)
  · intro s token hwire hweek
    exact hsound.signIn_clean hname hwire hweek

/-- A session that lasts for a week. -/
def firstSession : Session :=
  ⟨"a", .authenticated, week, "u"⟩

/-- A page signs in, and somebody else puts another token into its cookie. -/
def tradedPocket : Pocket :=
  performAll (.fresh themedJar "sid" 0 {}) [.signIn firstSession none, .assign "sid=b"]

theorem signedIn_iff_backed_tradedPocket :
    (performAll (.fresh themedJar "sid" 0 {}) [.signIn firstSession none]).signedIn = .ok
    (some firstSession) ∧
      tradedPocket.signedIn = .ok none ∧
      (performAll (perform tradedPocket .current) [.assign "sid=a"]).cookie? = some "a" ∧
      (performAll (perform tradedPocket .current) [.assign "sid=a"]).signedIn = .ok none := by
  have hwrite : Jar.assign {} 0 "theme = sid=dark ; path=/" = .ok themedJar := rfl
  have hfirst : firstInstant ≤ (0 : Instant) := by decide
  have hbacked := signedIn_iff_backed (.assign .empty hwrite) "sid" hfirst (by decide) {}
  have hcached : (notes (.fresh themedJar "sid" 0 {}) [.signIn firstSession none]).getLast? =
      some (.cached firstSession "a") := by decide +kernel
  obtain ⟨hsigned, -, -⟩ := hbacked [.signIn firstSession none] rfl
  obtain ⟨htraded, hgone, hclean⟩ :=
    hbacked [.signIn firstSession none, .assign "sid=b"] (p := tradedPocket) rfl
  have hnone : tradedPocket.signedIn = .ok none := by
    obtain ⟨r, hr⟩ := (hclean (by decide)).1
    cases r with
    | none => exact hr
    | some s =>
      obtain ⟨wire, hlast, hwire, -⟩ := (htraded s).mp hr
      -- Writing to the jar is no news about the page, so that the token is still the first one.
      obtain ⟨-, rfl⟩ := Note.cached.inj (Option.some.inj (hcached.symm.trans hlast))
      exact absurd hwire (by decide +kernel)
  refine ⟨(hsigned firstSession).mpr ⟨"a", hcached, by decide +kernel, by decide⟩, hnone,
    by decide +kernel, ?_⟩
  exact hgone hnone [.assign "sid=a"] fun s wire => List.not_mem_nil

end WalletCall

end Waypost.Browser
