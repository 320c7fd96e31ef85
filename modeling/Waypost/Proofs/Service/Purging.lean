import Waypost.Proofs.Service.Admission

/-!
# Purging goes unnoticed

Sessions that have ended count for nothing, so a store from which they have been purged and one that
still has them let the same visitors in, now and later. The stores do differ: they have different
sizes, and revoking a purged token finds nothing.

* `Alike now s s'` : two stores that give the same tokens from now on and in which every token is
  worth the same;
* `Alike.issue`, `Alike.revoke`, `Alike.login`, `Alike.logout`, `Alike.later` : what is done to both
  keeps that; `Alike.purge` : so does purging one of them;
* `withoutPurges` : what is left of actions without their purges; `performAll_withoutPurges` : it
  leads to a world that lets the same visitors in.
-/

namespace Waypost.Access

open Time

/-- Two stores that give the same tokens from now on and in which every token is worth the same. -/
structure Alike (now : Instant) (s s' : Store) : Prop where
  ttl : s.ttl = s'.ttl
  tokens : s.tokens = s'.tokens
  taken : s.taken = s'.taken
  keys : (Keyed.keys s.sessions).Nodup
  keys' : (Keyed.keys s'.sessions).Nodup
  worth : ∀ token, live? (s.get? token) now = live? (s'.get? token) now

/-- What has ended is worth nothing at any later time. -/
theorem live?_of_live? {now later : Instant} (hlater : now ≤ later) (c : Option Session) :
    live? (live? c now) later = live? c later := by
  ext x
  rw [live?_eq_some_iff, live?_eq_some_iff, live?_eq_some_iff]
  constructor
  · rintro ⟨⟨hc, -⟩, hend⟩
    exact ⟨hc, hend⟩
  · rintro ⟨hc, hend⟩
    exact ⟨⟨hc, Int.lt_of_le_of_lt hlater hend⟩, hend⟩

namespace Alike

variable {now : Instant} {s s' : Store}

theorem refl (hkeys : (Keyed.keys s.sessions).Nodup) (now : Instant) : Alike now s s :=
  ⟨rfl, rfl, rfl, hkeys, hkeys, fun _ => rfl⟩

theorem symm (h : Alike now s s') : Alike now s' s :=
  ⟨h.ttl.symm, h.tokens.symm, h.taken.symm, h.keys', h.keys, fun token => (h.worth token).symm⟩

theorem trans {s'' : Store} (h : Alike now s s') (h' : Alike now s' s'') : Alike now s s'' :=
  ⟨h.ttl.trans h'.ttl, h.tokens.trans h'.tokens, h.taken.trans h'.taken, h.keys, h'.keys',
    fun token => (h.worth token).trans (h'.worth token)⟩

theorem later {later : Instant} (h : Alike now s s') (hlater : now ≤ later) : Alike later s s' := by
  refine { h with worth := fun token => ?_ }
  rw [← live?_of_live? hlater, h.worth token, live?_of_live? hlater]

/-- Alike stores let the same visitors in. -/
theorem guard_eq (h : Alike now s s') (required : Level) (token : String) :
    guard required (s.get? token) now = guard required (s'.get? token) now := by
  rw [← guard_live?, h.worth token, guard_live?]

/-! ## What is done to a store -/

theorem issue (h : Alike now s s') (userId : String) (level : Level) (ttl : Option Duration)
    (j j' : Journal) :
    Alike now (s.issue now userId level ttl j).2.1 (s'.issue now userId level ttl j').2.1 := by
  unfold Store.issue
  dsimp only
  rw [← h.ttl, ← h.tokens, ← h.taken]
  cases Instant.add now (ttl.getD s.ttl) with
  | error e => exact ⟨rfl, rfl, rfl, h.keys, h.keys', h.worth⟩
  | ok expiresAt =>
    refine ⟨rfl, rfl, rfl, Keyed.nodup_keys_put h.keys _ _, Keyed.nodup_keys_put h.keys' _ _,
      fun token => ?_⟩
    unfold Store.get?
    by_cases htoken : s.tokens s.taken = token
    · rw [← htoken, Keyed.get?_put_self, Keyed.get?_put_self]
    · rw [Keyed.get?_put_of_ne htoken, Keyed.get?_put_of_ne htoken]
      exact h.worth token

theorem revoke (h : Alike now s s') (token : String) (j j' : Journal) :
    Alike now (s.revoke token j).2.1 (s'.revoke token j').2.1 := by
  rw [revoke_sessions, revoke_sessions]
  refine ⟨h.ttl, h.tokens, h.taken, Keyed.nodup_keys_erase h.keys _,
    Keyed.nodup_keys_erase h.keys' _, fun token' => ?_⟩
  unfold Store.get?
  by_cases htoken : token = token'
  · rw [← htoken, Keyed.get?_erase_self, Keyed.get?_erase_self]
  · rw [Keyed.get?_erase_of_ne htoken, Keyed.get?_erase_of_ne htoken]
    exact h.worth token'

/-- Purging takes out only what is worth nothing. -/
theorem purge (h : Alike now s s') (j : Journal) : Alike now (s.purge now j).2.1 s' := by
  rw [purge_sessions]
  refine ⟨h.ttl, h.tokens, h.taken, Keyed.nodup_keys_filter h.keys _, h.keys', fun token => ?_⟩
  have hget := Keyed.get?_filter h.keys (fun x => !x.isExpired now) token
  calc live? (Keyed.get? token (s.sessions.filter fun p => !p.2.isExpired now)) now
      = live? (live? (s.get? token) now) now := by rw [hget]; rfl
    _ = live? (s.get? token) now := live?_of_live? (Int.le_refl now) _
    _ = live? (s'.get? token) now := h.worth token

theorem login (h : Alike now s s') (account : Option Account) (password : String) (j j' : Journal) :
    Alike now (login account password s now j).2.1 (login account password s' now j').2.1 := by
  rw [store_login, store_login]
  cases entrant? account password with
  | none => exact h
  | some a => exact h.issue a.id a.level none j j'

theorem logout (h : Alike now s s') (token : Option String) (j j' : Journal) :
    Alike now (logout token s j).2.1 (logout token s' j').2.1 := by
  rw [store_logout, store_logout]
  cases token.filter fun t => !t.isEmpty with
  | none => exact h
  | some t => exact h.revoke t j j'

end Alike

end Waypost.Access

namespace Waypost.Service

open Access Time

variable {α : Type} {w w' : World α}

/-- Two worlds at the same time, with stores that are alike. -/
def World.Alike (w w' : World α) : Prop :=
  w.now = w'.now ∧ Access.Alike w.now w.store w'.store

namespace Action

/-- Whether an action purges the store. -/
def isPurge : Action → Bool
  | .purge => true
  | _ => false

end Action

/-- What is left of actions without their purges. -/
def withoutPurges (actions : List Action) : List Action :=
  actions.filter fun a => !a.isPurge

theorem now_advance_congr (hnow : w.now = w'.now) (micros : Nat) :
    (w.advance micros).2.now = (w'.advance micros).2.now := by
  unfold World.advance
  rw [← hnow]
  split
  · exact hnow
  · split
    · exact hnow
    · rfl

theorem perform_alike (h : w.Alike w') (a : Action) : (a.perform w).Alike (a.perform w') := by
  obtain ⟨hnow, hstore⟩ := h
  have hclock := now_advance_congr hnow
  -- Both stores are then written to at one and the same time.
  obtain ⟨s', now', j', inbox', own'⟩ := w'
  obtain rfl : w.now = now' := hnow
  cases a with
  | issue userId level ttl =>
    obtain ⟨-, hissue, hsame⟩ := issue_spec w userId level ttl
    obtain ⟨-, hissue', hsame'⟩ := issue_spec ⟨s', w.now, j', inbox', own'⟩ userId level ttl
    refine ⟨hsame.trans hsame'.symm, ?_⟩
    rw [Action.perform, Action.perform, hissue, hissue', hsame]
    exact hstore.issue userId level ttl w.journal j'
  | revoke token => exact ⟨rfl, hstore.revoke token w.journal j'⟩
  | purge => exact ⟨rfl, ((hstore.purge w.journal).symm.purge j').symm⟩
  | login account password => exact ⟨rfl, hstore.login account password w.journal j'⟩
  | logout token => exact ⟨rfl, hstore.logout token w.journal j'⟩
  | advance micros =>
    refine ⟨hclock micros, ?_⟩
    rw [Action.perform, Action.perform, store_advance, store_advance]
    exact hstore.later (now_le_advance w micros)

theorem purge_alike (h : w.Alike w') : (Action.perform w .purge).Alike w' :=
  ⟨h.1, h.2.purge w.journal⟩

theorem performAll_withoutPurges (h : w.Alike w') (actions : List Action) :
    (Action.performAll w actions).Alike (Action.performAll w' (withoutPurges actions)) := by
  induction actions generalizing w w' with
  | nil => exact h
  | cons a actions ih =>
    cases hpurge : a.isPurge with
    | true =>
      have hskip : withoutPurges (a :: actions) = withoutPurges actions := by
        simp [withoutPurges, hpurge]
      obtain rfl : a = .purge := by
        cases a with
        | purge => rfl
        | _ => cases hpurge
      rw [hskip]
      exact ih (purge_alike h)
    | false =>
      have hkeep : withoutPurges (a :: actions) = a :: withoutPurges actions := by
        simp [withoutPurges, hpurge]
      rw [hkeep]
      exact ih (perform_alike h a)

/-- Two runs that differ in their purges only let the same visitors in at all corresponding points,
with the same token and for every level, then and at any later time. -/
theorem guard_eq_of_withoutPurges_eq {w : World α} (hempty : w.store.sessions = [])
    {actions actions' : List Action} (hsame : withoutPurges actions = withoutPurges actions')
    {before : List Action} (hbefore : before <+: actions) :
    (∃ before', before' <+: actions' ∧ withoutPurges before' = withoutPurges before) ∧
      ∀ before', before' <+: actions' → withoutPurges before' = withoutPurges before →
        (Action.performAll w before).now = (Action.performAll w before').now ∧
          ∀ required token later, (Action.performAll w before).now ≤ later →
            guard required ((Action.performAll w before).store.get? token) later =
              guard required ((Action.performAll w before').store.get? token) later := by
  have halike : w.Alike w := by
    refine ⟨rfl, Access.Alike.refl ?_ w.now⟩
    rw [hempty]
    exact List.nodup_nil
  constructor
  · have hprefix : withoutPurges before <+: withoutPurges actions' := hsame ▸ hbefore.filter _
    obtain ⟨before', hbefore', heq⟩ := List.prefix_filter_iff.mp hprefix
    exact ⟨before', hbefore', heq.symm⟩
  · -- Both runs are compared with the one that has no purges.
    intro before' _ heq
    obtain ⟨hnow, hstore⟩ := performAll_withoutPurges halike before
    obtain ⟨hnow', hstore'⟩ := performAll_withoutPurges halike before'
    rw [heq] at hnow' hstore'
    have hclock : (Action.performAll w before).now = (Action.performAll w before').now :=
      hnow.trans hnow'.symm
    rw [← hclock] at hstore'
    refine ⟨hclock, fun required token later hlater => ?_⟩
    exact ((hstore.trans hstore'.symm).later hlater).guard_eq required token

/-- Two sessions are issued, the first for a second, and the other one is revoked at the instant at
which it ends. -/
def endingActions : List Action :=
  [.issue "ann" .elevated (some 1000000), .issue "bob" .authenticated none, .advance 1000000,
    .revoke "tt"]

/-- The same, with the store purged at that instant and, to no effect, at the start. -/
def endingActionsPurged : List Action :=
  [.purge, .issue "ann" .elevated (some 1000000), .issue "bob" .authenticated none,
    .advance 1000000, .purge, .revoke "tt"]

theorem guard_eq_of_withoutPurges_eq_ending :
    withoutPurges endingActions = withoutPurges endingActionsPurged ∧
      (Action.performAll newWorld endingActions).store.size = 1 ∧
      (Action.performAll newWorld endingActionsPurged).store.size = 0 ∧
      ∀ required, guard required ((Action.performAll newWorld endingActions).store.get? "t")
        1000000 =
        guard required ((Action.performAll newWorld endingActionsPurged).store.get? "t")
          1000000 := by
  have hempty : newWorld.store.sessions = [] := rfl
  have hsame : withoutPurges endingActions = withoutPurges endingActionsPurged := rfl
  have hruns := guard_eq_of_withoutPurges_eq hempty hsame (List.prefix_refl _)
  have hguard := (hruns.2 endingActionsPurged (List.prefix_refl _) hsame.symm).2
  exact ⟨hsame, by decide, by decide, fun required => hguard required "t" 1000000 (by decide)⟩

end Waypost.Service
