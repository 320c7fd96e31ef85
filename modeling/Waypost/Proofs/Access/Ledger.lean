import Waypost.Proofs.Access.Operations

/-!
# What the store knows of what was done to it

A ledger lists the sessions that were issued and the tokens that were revoked, in order. Sessions
that have ended may be purged at any time, so the store need not have them; all others it has
exactly if the ledger says so.

* `Deed`, `Holds` : a session has been issued and its token not revoked since; `Live` : and it has
  not ended;
* `Sound` : the store agrees with the ledger, and is kept by issuing, revoking, purging and the
  passing of time;
* `Sound.login`, `Sound.logout` : so do logging in and out;
* `Sound.live?_eq_some_iff` : what the guard makes of a token that it is given.
-/

namespace Waypost.Access

open Time

/-- What is done to a store that matters for which sessions are in force. -/
inductive Deed where
  | issued (session : Session)
  | revoked (token : String)
deriving DecidableEq, Repr

/-- The session has been issued, and its token has not been revoked since. -/
def Holds (ledger : List Deed) (x : Session) : Prop :=
  ∃ before after, ledger = before ++ .issued x :: after ∧ .revoked x.token ∉ after

/-- The session has been issued, its token has not been revoked since, and it has not ended. -/
def Live (ledger : List Deed) (now : Instant) (x : Session) : Prop :=
  Holds ledger x ∧ now < x.expiresAt

/-- The token that a deed issues. -/
def Deed.issuedToken? : Deed → Option String
  | .issued x => some x.token
  | .revoked _ => none

/-- The tokens that have been issued, in order. -/
def issuedTokens (ledger : List Deed) : List String :=
  ledger.filterMap Deed.issuedToken?

/-! ## One more deed -/

theorem holds_concat {ledger : List Deed} {d : Deed} {x : Session} :
    Holds (ledger ++ [d]) x ↔ (Holds ledger x ∧ d ≠ .revoked x.token) ∨ d = .issued x := by
  constructor
  · rintro ⟨before, after, hledger, hafter⟩
    rcases List.eq_nil_or_concat after with rfl | ⟨after, d', rfl⟩
    · right
      exact List.singleton_inj.mp (List.append_inj_right' hledger rfl)
    · left
      rw [List.concat_eq_append] at hledger hafter
      rw [← List.cons_append, ← List.append_assoc] at hledger
      obtain ⟨hbefore, hlast⟩ := List.append_inj' hledger rfl
      obtain rfl := List.singleton_inj.mp hlast
      rw [List.mem_append, not_or] at hafter
      refine ⟨⟨before, after, hbefore, hafter.1⟩, ?_⟩
      rintro rfl
      exact hafter.2 (List.mem_singleton.mpr rfl)
  · rintro (⟨⟨before, after, rfl, hafter⟩, hd⟩ | rfl)
    · refine ⟨before, after ++ [d], by simp, ?_⟩
      rw [List.mem_append, not_or]
      exact ⟨hafter, fun hmem => hd (List.mem_singleton.mp hmem).symm⟩
    · exact ⟨ledger, [], rfl, List.not_mem_nil⟩

theorem Holds.mem_issuedTokens {ledger : List Deed} {x : Session} (h : Holds ledger x) :
    x.token ∈ issuedTokens ledger := by
  obtain ⟨before, after, rfl, -⟩ := h
  rw [issuedTokens, List.mem_filterMap]
  exact ⟨.issued x, by simp, rfl⟩

theorem nodup_issuedTokens_left {ledger ledger' : List Deed}
    (h : (issuedTokens (ledger ++ ledger')).Nodup) :
    (issuedTokens ledger).Nodup := by
  rw [issuedTokens, List.filterMap_append] at h
  exact (List.nodup_append.mp h).1

/-- The token of a session that is issued last is new. -/
theorem Holds.token_ne {ledger : List Deed} {x y : Session}
    (hdistinct : (issuedTokens (ledger ++ [.issued y])).Nodup) (h : Holds ledger x) :
    y.token ≠ x.token := by
  rw [issuedTokens, List.filterMap_append] at hdistinct
  intro heq
  exact List.disjoint_of_nodup_append hdistinct h.mem_issuedTokens (List.mem_singleton.mpr heq.symm)

/-! ## The store and the ledger -/

/-- The store agrees with the ledger, but for sessions that have ended. -/
structure Sound (s : Store) (now : Instant) (ledger : List Deed) : Prop where
  keys : (Keyed.keys s.sessions).Nodup
  stored : ∀ {token : String} {x : Session}, s.get? token = some x →
    x.token = token ∧ Holds ledger x
  kept : ∀ {x : Session}, Live ledger now x → s.get? x.token = some x

theorem sound_empty {s : Store} (hempty : s.sessions = []) (now : Instant) : Sound s now [] := by
  refine ⟨?_, ?_, ?_⟩
  · rw [hempty]
    exact List.nodup_nil
  · intro token x hx
    rw [Store.get?, hempty] at hx
    cases hx
  · rintro x ⟨⟨before, after, hledger, -⟩, -⟩
    exact absurd hledger (by simp)

variable {s s' : Store} {now : Instant} {ledger : List Deed} {j j' : Journal}

/-- Taking a token that is then not used changes nothing. -/
theorem Sound.of_sessions (h : Sound s now ledger) (hsame : s'.sessions = s.sessions) :
    Sound s' now ledger := by
  have hget : ∀ token, s'.get? token = s.get? token :=
    fun token => by rw [Store.get?, hsame, Store.get?]
  exact ⟨hsame.symm ▸ h.keys, fun hx => h.stored (hget _ ▸ hx),
    fun hlive => (hget _).trans (h.kept hlive)⟩

theorem Sound.put {x : Session} (h : Sound s now ledger)
    (hdistinct : (issuedTokens (ledger ++ [.issued x])).Nodup)
    (hsessions : s'.sessions = Keyed.put x.token x s.sessions) :
    Sound s' now (ledger ++ [.issued x]) := by
  have hself : s'.get? x.token = some x := by rw [Store.get?, hsessions, Keyed.get?_put_self]
  have hother : ∀ {token}, x.token ≠ token → s'.get? token = s.get? token := by
    intro token hne
    rw [Store.get?, hsessions, Keyed.get?_put_of_ne hne, Store.get?]
  refine ⟨?_, ?_, ?_⟩
  · rw [hsessions]
    exact Keyed.nodup_keys_put h.keys x.token x
  · intro token y hy
    by_cases htoken : x.token = token
    · subst htoken
      obtain rfl : x = y := Option.some.inj (hself.symm.trans hy)
      exact ⟨rfl, holds_concat.mpr (Or.inr rfl)⟩
    · obtain ⟨hname, hholds⟩ := h.stored ((hother htoken).symm.trans hy)
      exact ⟨hname, holds_concat.mpr (Or.inl ⟨hholds, by simp⟩)⟩
  · rintro y ⟨hholds, hend⟩
    rcases holds_concat.mp hholds with ⟨hold, -⟩ | hnew
    · rw [hother (hold.token_ne hdistinct)]
      exact h.kept ⟨hold, hend⟩
    · obtain rfl := Deed.issued.inj hnew
      exact hself

theorem Sound.erase (h : Sound s now ledger) (token : String)
    (hsessions : s'.sessions = Keyed.erase token s.sessions) :
    Sound s' now (ledger ++ [.revoked token]) := by
  have hother : ∀ {token'}, token ≠ token' → s'.get? token' = s.get? token' := by
    intro token' hne
    rw [Store.get?, hsessions, Keyed.get?_erase_of_ne hne, Store.get?]
  refine ⟨?_, ?_, ?_⟩
  · rw [hsessions]
    exact Keyed.nodup_keys_filter h.keys _
  · intro token' y hy
    by_cases htoken : token = token'
    · subst htoken
      rw [Store.get?, hsessions, Keyed.get?_erase_self] at hy
      cases hy
    · obtain ⟨hname, hholds⟩ := h.stored ((hother htoken).symm.trans hy)
      refine ⟨hname, holds_concat.mpr (Or.inl ⟨hholds, ?_⟩)⟩
      rw [hname]
      exact fun heq => htoken (Deed.revoked.inj heq)
  · rintro y ⟨hholds, hend⟩
    rcases holds_concat.mp hholds with ⟨hold, hne⟩ | hnew
    · rw [hother fun heq => hne (congrArg Deed.revoked heq)]
      exact h.kept ⟨hold, hend⟩
    · cases hnew

/-! ## The operations of the store -/

/-- The deed of issuing a session, if one is issued. -/
def issuedBy (x : Option Session) : List Deed :=
  x.toList.map .issued

theorem Sound.issue (h : Sound s now ledger) (userId : String) (level : Level)
    (ttl : Option Duration) (j : Journal)
    (hdistinct :
      (issuedTokens (ledger ++ issuedBy (s.issue now userId level ttl j).1.toOption)).Nodup) :
    Sound (s.issue now userId level ttl j).2.1 now
      (ledger ++ issuedBy (s.issue now userId level ttl j).1.toOption) := by
  rcases issue_cases s now userId level ttl j with ⟨err, hissue⟩ | ⟨x, j', -, hissue⟩
  · rw [hissue]
    simp only [Except.toOption, issuedBy, Option.toList_none, List.map_nil, List.append_nil]
    exact h.of_sessions rfl
  · rw [hissue] at hdistinct ⊢
    exact h.put hdistinct rfl

theorem Sound.revoke (h : Sound s now ledger) (token : String) (j : Journal) :
    Sound (s.revoke token j).2.1 now (ledger ++ [.revoked token]) :=
  h.erase token (congrArg Store.sessions (revoke_sessions s token j))

/-- Purging takes away only what has ended. -/
theorem Sound.purge (h : Sound s now ledger) (j : Journal) :
    Sound (s.purge now j).2.1 now ledger := by
  have hsessions : (s.purge now j).2.1.sessions = s.sessions.filter fun p => !p.2.isExpired now :=
    congrArg Store.sessions (purge_sessions s now j)
  have hget : ∀ token, (s.purge now j).2.1.get? token = (s.get? token).filter fun x =>
      !x.isExpired now := by
    intro token
    rw [Store.get?, hsessions]
    exact Keyed.get?_filter h.keys (fun x => !x.isExpired now) token
  refine ⟨?_, ?_, ?_⟩
  · rw [hsessions]
    exact Keyed.nodup_keys_filter h.keys _
  · intro token x hx
    rw [hget] at hx
    exact h.stored (Option.mem_filter_iff.mp hx).1
  · intro x hlive
    rw [hget, h.kept hlive, Option.filter_some, if_pos]
    simpa [Session.isExpired] using hlive.2

/-- As time passes, fewer sessions have not ended. -/
theorem Sound.later {now' : Instant} (h : Sound s now ledger) (hlater : now ≤ now') :
    Sound s now' ledger :=
  ⟨h.keys, h.stored, fun hlive => h.kept ⟨hlive.1, Int.lt_of_le_of_lt hlater hlive.2⟩⟩

theorem Sound.login (h : Sound s now ledger) (account : Option Account) (password : String)
    (j : Journal)
    (hdistinct : (issuedTokens (ledger ++
      issuedBy ((login account password s now j).1.toOption.bind LoginOutcome.session?))).Nodup) :
    Sound (login account password s now j).2.1 now
      (ledger ++ issuedBy ((login account password s now j).1.toOption.bind
        LoginOutcome.session?)) := by
  rcases login_cases account password s now j with ⟨-, hstore, hsession⟩ | ⟨a, -, hstore, hsession⟩
  · rw [hstore, hsession, issuedBy, Option.toList_none, List.map_nil, List.append_nil]
    exact h
  · rw [hsession] at hdistinct
    rw [hstore, hsession]
    exact h.issue a.id a.level none j hdistinct

/-- The deed of logging out with a token, if one is given. -/
def revokedBy (token : Option String) : List Deed :=
  (token.filter fun t => !t.isEmpty).toList.map .revoked

theorem Sound.logout (h : Sound s now ledger) (token : Option String) (j : Journal) :
    Sound (logout token s j).2.1 now (ledger ++ revokedBy token) := by
  unfold revokedBy
  rcases logout_cases token s j with ⟨hgiven, hout⟩ | ⟨t, -, hgiven, -, hout⟩
  · rw [hgiven, hout, Option.toList_none, List.map_nil, List.append_nil]
    exact h
  · rw [hgiven, hout, Option.toList_some, List.map_singleton]
    exact h.revoke t j

/-! ## What the guard makes of a token -/

theorem live?_eq_some_iff {c : Option Session} {x : Session} :
    live? c now = some x ↔ c = some x ∧ now < x.expiresAt := by
  have hended : (!x.isExpired now) = true ↔ now < x.expiresAt := by simp [Session.isExpired]
  unfold live?
  rw [Option.filter_eq_some_iff, hended]

/-- The session that a token is worth is the live one that it names. -/
theorem Sound.live?_eq_some_iff (h : Sound s now ledger) {token : String} {x : Session} :
    live? (s.get? token) now = some x ↔ x.token = token ∧ Live ledger now x := by
  rw [Access.live?_eq_some_iff]
  constructor
  · rintro ⟨hget, hend⟩
    obtain ⟨htoken, hholds⟩ := h.stored hget
    exact ⟨htoken, hholds, hend⟩
  · rintro ⟨rfl, hlive⟩
    exact ⟨h.kept hlive, hlive.2⟩

theorem Sound.live?_eq_none_iff (h : Sound s now ledger) {token : String} :
    live? (s.get? token) now = none ↔ ∀ x, x.token = token → ¬ Live ledger now x := by
  rw [Option.eq_none_iff_forall_ne_some]
  constructor
  · intro hnone x htoken hlive
    exact hnone x (h.live?_eq_some_iff.mpr ⟨htoken, hlive⟩)
  · intro hnone x hsome
    obtain ⟨htoken, hlive⟩ := h.live?_eq_some_iff.mp hsome
    exact hnone x htoken hlive

theorem guard_of_live {required : Level} (hrequired : required ≠ .anonymous) {c : Option Session}
    {x : Session} (hlive : live? c now = some x) :
    guard required c now = if required ≤ x.level then .allowed else .insufficientLevel := by
  unfold guard
  rw [if_neg hrequired, hlive]

theorem guard_of_dead {required : Level} (hrequired : required ≠ .anonymous) {c : Option Session}
    (hdead : live? c now = none) : guard required c now = .unauthenticated := by
  unfold guard
  rw [if_neg hrequired, hdead]

/-- What asks for a level is open to live sessions of that level or a higher one, and to nobody
else. -/
theorem guard_eq_allowed_iff {required : Level} {c : Option Session} :
    guard required c now = .allowed ↔
      required = .anonymous ∨ ∃ x, c = some x ∧ now < x.expiresAt ∧ required ≤ x.level := by
  by_cases hrequired : required = .anonymous
  · rw [hrequired, guard_anonymous]
    simp
  · cases hlive : live? c now with
    | none =>
      have hdead : ∀ x, ¬ (c = some x ∧ now < x.expiresAt) := fun x hx => by
        rw [live?_eq_some_iff.mpr hx] at hlive
        cases hlive
      rw [guard_of_dead hrequired hlive]
      simp only [reduceCtorEq, hrequired, false_or, false_iff, not_exists]
      exact fun x hx => hdead x ⟨hx.1, hx.2.1⟩
    | some x =>
      obtain ⟨rfl, hend⟩ := live?_eq_some_iff.mp hlive
      rw [guard_of_live hrequired hlive]
      simp [hrequired, hend]

end Waypost.Access
