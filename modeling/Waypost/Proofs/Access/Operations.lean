import Waypost.Access.Login
import Waypost.Proofs.Keyed

/-!
# What the operations of a store do

* `issue_cases` : a session comes in under the next token, or its end is out of range and only the
  token is taken;
* `revoke_sessions`, `revoke_found` : a token goes out;
* `purge_sessions`, `purge_count` : what has ended goes out;
* `entrant?` : the account that a password lets in; `login_cases` : logging in is issuing for it;
* `logout_cases` : logging out is revoking; `logout_eq_success_iff` : it succeeds for a token that
  is there.
-/

namespace Waypost.Access

open Time

/-! ## The store -/

theorem issue_cases (s : Store) (now : Instant) (userId : String) (level : Level)
    (ttl : Option Duration) (j : Journal) :
    (∃ err, s.issue now userId level ttl j = (.error err, { s with taken := s.taken + 1 }, j)) ∨
      ∃ x j', x.token = s.tokens s.taken ∧
        s.issue now userId level ttl j =
          (.ok x, { s with taken := s.taken + 1, sessions := Keyed.put x.token x s.sessions },
            j') := by
  unfold Store.issue
  dsimp only
  cases now.add (ttl.getD s.ttl) with
  | error err => exact Or.inl ⟨err, rfl⟩
  | ok expiresAt => exact Or.inr ⟨⟨s.tokens s.taken, level, expiresAt, userId⟩, _, rfl, rfl⟩

theorem revoke_sessions (s : Store) (token : String) (j : Journal) :
    (s.revoke token j).2.1 = { s with sessions := Keyed.erase token s.sessions } := by
  unfold Store.revoke
  split
  · rename_i hnone
    rw [Keyed.erase_of_get?_eq_none hnone]
  · rfl

theorem revoke_found (s : Store) (token : String) (j : Journal) :
    (s.revoke token j).1 = s.contains token := by
  have hcontains : s.contains token = (s.get? token).isSome := rfl
  rw [hcontains]
  unfold Store.revoke
  cases s.get? token <;> rfl

theorem purge_sessions (s : Store) (now : Instant) (j : Journal) :
    (s.purge now j).2.1 = { s with sessions := s.sessions.filter fun p => !p.2.isExpired now } := by
  unfold Store.purge
  dsimp only
  split_ifs <;> rfl

theorem purge_count (s : Store) (now : Instant) (j : Journal) :
    (s.purge now j).1 = s.sessions.countP fun p => p.2.isExpired now := by
  rw [List.countP_eq_length_filter]
  unfold Store.purge
  dsimp only
  split_ifs with hnone
  · rw [List.isEmpty_iff.mp hnone]
    rfl
  · rfl

/-! ## Logging in and out -/

/-- The account that a password lets in. -/
def entrant? (account : Option Account) (password : String) : Option Account :=
  (passwordFits account password).toOption.join.filter Account.isActive

/-- Logging in issues a session for the account that the password lets in, if it lets one in. -/
theorem login_cases (account : Option Account) (password : String) (s : Store) (now : Instant)
    (j : Journal) :
    (entrant? account password = none ∧ (login account password s now j).2.1 = s ∧
        (login account password s now j).1.toOption.bind LoginOutcome.session? = none) ∨
      ∃ a, entrant? account password = some a ∧
        (login account password s now j).2.1 = (s.issue now a.id a.level none j).2.1 ∧
        (login account password s now j).1.toOption.bind LoginOutcome.session? =
          (s.issue now a.id a.level none j).1.toOption := by
  unfold login entrant?
  cases passwordFits account password with
  | error e => exact Or.inl ⟨rfl, rfl, rfl⟩
  | ok fits =>
    cases fits with
    | none => exact Or.inl ⟨rfl, rfl, rfl⟩
    | some a =>
      cases hactive : a.isActive with
      | false =>
        left
        simp [Except.toOption, Option.filter, hactive, LoginOutcome.session?]
      | true =>
        right
        refine ⟨a, by simp [Except.toOption, Option.filter, hactive], ?_⟩
        simp only [hactive, Bool.not_true, Bool.false_eq_true, if_false]
        rcases s.issue now a.id a.level none j with ⟨_ | _, _, _⟩ <;> exact ⟨rfl, rfl⟩

theorem store_login (account : Option Account) (password : String) (s : Store) (now : Instant)
    (j : Journal) :
    (login account password s now j).2.1 =
      match entrant? account password with
      | none => s
      | some a => (s.issue now a.id a.level none j).2.1 := by
  rcases login_cases account password s now j with
    ⟨hentrant, hstore, -⟩ | ⟨a, hentrant, hstore, -⟩ <;> rw [hentrant, hstore]

/-- Logging out revokes the token that is given, if one is given. -/
theorem logout_cases (token : Option String) (s : Store) (j : Journal) :
    (token.filter (fun t => !t.isEmpty) = none ∧ logout token s j = (.notLoggedIn, s, j)) ∨
      ∃ t, token = some t ∧ token.filter (fun t => !t.isEmpty) = some t ∧
        ((logout token s j).1 = .success ↔ (s.revoke t j).1 = true) ∧
        (logout token s j).2 = (s.revoke t j).2 := by
  unfold logout
  cases hgiven : token.filter fun t => !t.isEmpty with
  | none => exact Or.inl ⟨rfl, rfl⟩
  | some t =>
    right
    refine ⟨t, (Option.filter_eq_some_iff.mp hgiven).1, rfl, ?_⟩
    dsimp only
    rcases s.revoke t j with ⟨_ | _, _, _⟩ <;> exact ⟨by simp, rfl⟩

theorem logout_eq_success_iff (token : Option String) (s : Store) (j : Journal) :
    (logout token s j).1 = .success ↔ ∃ t, token = some t ∧ t ≠ "" ∧ (s.get? t).isSome := by
  rcases logout_cases token s j with ⟨hgiven, hout⟩ | ⟨t, rfl, hgiven, hsuccess, -⟩
  · rw [hout]
    refine ⟨fun h => (nomatch h), ?_⟩
    rintro ⟨t, rfl, ht, -⟩
    exact absurd (Option.filter_eq_none_iff.mp hgiven t rfl) (by simpa using ht)
  · have ht : t ≠ "" := by simpa using (Option.filter_eq_some_iff.mp hgiven).2
    rw [hsuccess, revoke_found]
    constructor
    · exact fun h => ⟨t, rfl, ht, h⟩
    · rintro ⟨_, ⟨⟩, -, h⟩
      exact h

theorem store_logout (token : Option String) (s : Store) (j : Journal) :
    (logout token s j).2.1 =
      match token.filter fun t => !t.isEmpty with
      | none => s
      | some t => (s.revoke t j).2.1 := by
  rcases logout_cases token s j with ⟨hgiven, hout⟩ | ⟨t, -, hgiven, -, hout⟩ <;> rw [hgiven, hout]

end Waypost.Access
