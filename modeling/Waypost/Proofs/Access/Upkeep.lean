import Waypost.Proofs.Access.Operations

/-!
# How long a store has a session

* `Upkeep`, `Store.upkeepAll` : what is done to a store, one thing after another;
* `Upkeep.removes` : what takes a session out: revoking its token, and purging once it has ended;
* `Lone` : the token of a session stands in the store once at most and is not given again;
* `get?_upkeepAll` : the store has a session until something takes it out, and not from then on.
-/

namespace Waypost.Access

open Time

/-- What is done to a store. -/
inductive Upkeep where
  | issue (now : Instant) (userId : String) (level : Level) (ttl : Option Duration)
  | revoke (token : String)
  | purge (now : Instant)

/-- Whether something takes a session out of the store. -/
def Upkeep.removes (x : Session) : Upkeep → Bool
  | .issue .. => false
  | .revoke token => token = x.token
  | .purge now => x.isExpired now

namespace Store

/-- Does one thing to a store. -/
def upkeep (s : Store) (j : Journal) : Upkeep → Store × Journal
  | .issue now userId level ttl => (s.issue now userId level ttl j).2
  | .revoke token => (s.revoke token j).2
  | .purge now => (s.purge now j).2

/-- Does one thing after another to a store. -/
def upkeepAll (s : Store) (j : Journal) : List Upkeep → Store × Journal
  | [] => (s, j)
  | u :: us => (s.upkeep j u).1.upkeepAll (s.upkeep j u).2 us

end Store

/-- Each token stands in the store once, and that of the session is not given again. -/
structure Lone (x : Session) (s : Store) : Prop where
  keys : (Keyed.keys s.sessions).Nodup
  fresh : ∀ n, s.taken ≤ n → s.tokens n ≠ x.token
  only : ∀ y, s.get? x.token = some y → y = x

variable {s : Store} {x : Session}

/-! ## One thing -/

/-- Issuing changes nothing for other tokens. -/
theorem issue_lone (h : Lone x s) (now : Instant) (userId : String) (level : Level)
    (ttl : Option Duration) (j : Journal) :
    Lone x (s.issue now userId level ttl j).2.1 ∧
      (s.issue now userId level ttl j).2.1.get? x.token = s.get? x.token := by
  have hother : s.tokens s.taken ≠ x.token := h.fresh s.taken (Nat.le_refl _)
  have hfresh : ∀ n, s.taken + 1 ≤ n → s.tokens n ≠ x.token :=
    fun n hn => h.fresh n (Nat.le_of_succ_le hn)
  rcases issue_cases s now userId level ttl j with ⟨err, hissue⟩ | ⟨y, j', htoken, hissue⟩
  · rw [hissue]
    exact ⟨⟨h.keys, hfresh, h.only⟩, rfl⟩
  · have hget := Keyed.get?_put_of_ne (htoken ▸ hother) y s.sessions
    rw [hissue]
    refine ⟨⟨Keyed.nodup_keys_put h.keys _ _, hfresh, fun z hz => h.only z ?_⟩, hget⟩
    rw [Store.get?, ← hget]
    exact hz

theorem revoke_lone (h : Lone x s) (token : String) (j : Journal) :
    Lone x (s.revoke token j).2.1 ∧
      (s.revoke token j).2.1.get? x.token = if token = x.token then none else s.get? x.token := by
  have hget : Keyed.get? x.token (Keyed.erase token s.sessions) =
      if token = x.token then none else s.get? x.token := by
    split_ifs with htoken
    · rw [htoken]
      exact Keyed.get?_erase_self x.token s.sessions
    · exact Keyed.get?_erase_of_ne htoken s.sessions
  rw [revoke_sessions]
  refine ⟨⟨Keyed.nodup_keys_filter h.keys _, h.fresh, fun y hy => ?_⟩, hget⟩
  rw [Store.get?, hget] at hy
  split_ifs at hy
  exact h.only y hy

theorem purge_lone (h : Lone x s) (now : Instant) (j : Journal) :
    Lone x (s.purge now j).2.1 ∧
      (s.purge now j).2.1.get? x.token = if x.isExpired now then none else s.get? x.token := by
  have hfilter : Keyed.get? x.token (s.sessions.filter fun p => !p.2.isExpired now) =
      (s.get? x.token).filter fun y => !y.isExpired now :=
    Keyed.get?_filter h.keys (fun y => !y.isExpired now) x.token
  rw [purge_sessions]
  refine ⟨⟨Keyed.nodup_keys_filter h.keys _, h.fresh, fun y hy => ?_⟩, ?_⟩
  · rw [Store.get?, hfilter] at hy
    exact h.only y (Option.mem_filter_iff.mp hy).1
  · rw [Store.get?, hfilter]
    cases hget : s.get? x.token with
    | none => split_ifs <;> rfl
    | some y =>
      obtain rfl := h.only y hget
      cases hended : y.isExpired now with
      | false => simp [Option.filter, hended]
      | true => simp [Option.filter, hended]

theorem upkeep_lone (h : Lone x s) (j : Journal) (u : Upkeep) :
    Lone x (s.upkeep j u).1 ∧ (s.upkeep j u).1.get? x.token =
      if u.removes x then none else s.get? x.token := by
  cases u with
  | issue now userId level ttl => exact issue_lone h now userId level ttl j
  | revoke token =>
    unfold Upkeep.removes
    simp only [decide_eq_true_eq]
    exact revoke_lone h token j
  | purge now => exact purge_lone h now j

/-! ## One thing after another -/

/-- The store has a session until something takes it out, and not from then on. -/
theorem get?_upkeepAll (h : Lone x s) (j : Journal) (us : List Upkeep) :
    (s.upkeepAll j us).1.get? x.token = if us.any (·.removes x) then none else s.get? x.token := by
  induction us generalizing s j with
  | nil => rfl
  | cons u us ih =>
    obtain ⟨hlone, hget⟩ := upkeep_lone h j u
    rw [Store.upkeepAll, ih hlone, hget, List.any_cons]
    cases u.removes x <;> simp

/-- A session that has just been issued is in the store, and its token is not given again by a
source that repeats nothing. -/
theorem lone_of_issue (hkeys : (Keyed.keys s.sessions).Nodup)
    (hfresh : ∀ n, s.taken < n → s.tokens n ≠ s.tokens s.taken) {now : Instant} {userId : String}
    {level : Level} {ttl : Option Duration} {j : Journal}
    (hissue : (s.issue now userId level ttl j).1 = .ok x) :
    Lone x (s.issue now userId level ttl j).2.1 ∧
      (s.issue now userId level ttl j).2.1.get? x.token = some x := by
  rcases issue_cases s now userId level ttl j with ⟨err, hcase⟩ | ⟨y, j', htoken, hcase⟩
  · rw [hcase] at hissue
    cases hissue
  · rw [hcase] at hissue ⊢
    obtain rfl := Except.ok.inj hissue
    have hget := Keyed.get?_put_self y.token y s.sessions
    refine ⟨⟨Keyed.nodup_keys_put hkeys _ _, fun n hn => htoken ▸ hfresh n hn, fun z hz => ?_⟩,
      hget⟩
    exact (Option.some.inj (hget.symm.trans hz)).symm

end Waypost.Access
