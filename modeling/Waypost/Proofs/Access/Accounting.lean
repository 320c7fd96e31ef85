import Mathlib.Algebra.Ring.Nat
import Waypost.Proofs.Access.Operations

/-!
# A store accounts for every session

Whatever is asked of a store, and however its clock is set in between, what is in it follows from
what the calls came to: which sessions were issued, which tokens were revoked, and at which times it
was purged.

* `Call`, `Desk.perform` : a call of a store or of its clock, and what it does; `Desk.after`,
  `Desk.postings` : many of them;
* `Posting` : what a call came to; `Booked` : what that means for the sessions; `perform_booked` :
  this is all that a call does;
* `Tidy` : each session stands under its own token, once; `Booked.get?_of_unopened`, `Booked.length`
  : what one call changes;
* `BookedAll.get?_of_opened`, `BookedAll.get?_of_unopened`, `BookedAll.length` : the sessions after
  many calls;
* `Accounted` : what a store has, by what its calls came to; `Desk.accounts` : every store does that
  was empty.
-/

namespace Waypost.Access

open Time

/-! ## Calls -/

/-- A call of a store or of its clock. -/
inductive Call where
  | issue (userId : String) (level : Level) (ttl : Option Duration)
  | revoke (token : String)
  | get (token : String)
  | purge
  | login (account : Option Account) (password : String)
  | logout (token : Option String)
  | setClock (now : Instant)

/-- What comes back from a call. -/
@[reducible] def Call.Answer : Call → Type
  | .issue .. => Except RangeError Session
  | .revoke _ => Bool
  | .get _ => Option Session
  | .purge => Nat
  | .login .. => Except Fault LoginOutcome
  | .logout _ => LogoutOutcome
  | .setClock _ => Unit

/-- A store with its clock and the journal that it writes. -/
structure Desk where
  store : Store
  now : Instant
  journal : Journal := {}

namespace Desk

/-- Answers a call. -/
def perform (d : Desk) : (c : Call) → c.Answer × Desk
  | .issue userId level ttl =>
    let r := d.store.issue d.now userId level ttl d.journal
    (r.1, { d with store := r.2.1, journal := r.2.2 })
  | .revoke token =>
    let r := d.store.revoke token d.journal
    (r.1, { d with store := r.2.1, journal := r.2.2 })
  | .get token => (d.store.get? token, d)
  | .purge =>
    let r := d.store.purge d.now d.journal
    (r.1, { d with store := r.2.1, journal := r.2.2 })
  | .login account password =>
    let r := Access.login account password d.store d.now d.journal
    (r.1, { d with store := r.2.1, journal := r.2.2 })
  | .logout token =>
    let r := Access.logout token d.store d.journal
    (r.1, { d with store := r.2.1, journal := r.2.2 })
  | .setClock now => ((), { d with now })

/-- The desk after calls. -/
def after (d : Desk) : List Call → Desk
  | [] => d
  | c :: calls => (d.perform c).2.after calls

end Desk

/-! ## Postings -/

/-- What a call came to. -/
inductive Posting where
  | opened (session : Session)
  | closed (token : String)
  | purged (now : Instant) (count : Nat)
  | nothing
deriving DecidableEq, Repr

namespace Posting

/-- The session that has been issued. -/
def opened? : Posting → Option Session
  | .opened x => some x
  | _ => none

/-- Whether a session has been revoked. -/
def isClosed : Posting → Bool
  | .closed _ => true
  | _ => false

/-- How many sessions have been purged. -/
def purgedCount : Posting → Nat
  | .purged _ n => n
  | _ => 0

/-- Whether a session is taken out: its token is revoked, or the store is purged at its end or
later. -/
def removes (x : Session) : Posting → Bool
  | .closed token => token = x.token
  | .purged now _ => x.isExpired now
  | _ => false

end Posting

/-- What a call at a time came to, by its answer. -/
def Call.posting (now : Instant) : (c : Call) → c.Answer → Posting
  | .issue .., result => result.toOption.elim .nothing .opened
  | .revoke token, found => if found then .closed token else .nothing
  | .get _, _ => .nothing
  | .purge, n => .purged now n
  | .login .., result => (result.toOption.bind LoginOutcome.session?).elim .nothing .opened
  | .logout token, outcome => if outcome = .success then token.elim .nothing .closed else .nothing
  | .setClock _, _ => .nothing

/-- What calls came to, in order. -/
def Desk.postings (d : Desk) : List Call → List Posting
  | [] => []
  | c :: calls => c.posting d.now (d.perform c).1 :: (d.perform c).2.postings calls

/-- The sessions that have been issued, in order. -/
def opened (ps : List Posting) : List Session :=
  ps.filterMap Posting.opened?

/-! ## What a posting means for the sessions -/

/-- The sessions by token, before and after a call that came to something. -/
inductive Booked : Posting → List (String × Session) → List (String × Session) → Prop where
  | opened (x : Session) (m : List (String × Session)) :
      Booked (.opened x) m (Keyed.put x.token x m)
  | closed {token : String} {x : Session} {m : List (String × Session)}
      (hget : Keyed.get? token m = some x) : Booked (.closed token) m (Keyed.erase token m)
  | purged (now : Instant) (m : List (String × Session)) :
      Booked (.purged now (m.countP fun p => p.2.isExpired now)) m
        (m.filter fun p => !p.2.isExpired now)
  | nothing (m : List (String × Session)) : Booked .nothing m m

theorem issue_booked (s : Store) (now : Instant) (userId : String) (level : Level)
    (ttl : Option Duration) (j : Journal) :
    Booked ((s.issue now userId level ttl j).1.toOption.elim .nothing .opened) s.sessions
      (s.issue now userId level ttl j).2.1.sessions := by
  rcases issue_cases s now userId level ttl j with ⟨err, hissue⟩ | ⟨x, j', -, hissue⟩
  · rw [hissue]
    exact .nothing s.sessions
  · rw [hissue]
    exact .opened x s.sessions

theorem revoke_booked (s : Store) (token : String) (j : Journal) :
    Booked (if (s.revoke token j).1 then .closed token else .nothing) s.sessions
      (s.revoke token j).2.1.sessions := by
  rw [revoke_found, revoke_sessions]
  split_ifs with hfound
  · obtain ⟨x, hx⟩ := Option.isSome_iff_exists.mp hfound
    exact .closed hx
  · have hnone : Keyed.get? token s.sessions = none := Option.not_isSome_iff_eq_none.mp hfound
    dsimp only
    rw [Keyed.erase_of_get?_eq_none hnone]
    exact .nothing s.sessions

/-- A call does to the sessions what it came to. -/
theorem perform_booked (d : Desk) (c : Call) :
    Booked (c.posting d.now (d.perform c).1) d.store.sessions (d.perform c).2.store.sessions := by
  cases c with
  | issue userId level ttl => exact issue_booked d.store d.now userId level ttl d.journal
  | revoke token => exact revoke_booked d.store token d.journal
  | get token => exact .nothing d.store.sessions
  | purge =>
    unfold Desk.perform Call.posting
    dsimp only
    rw [purge_count, purge_sessions]
    exact .purged d.now d.store.sessions
  | login account password =>
    unfold Desk.perform Call.posting
    dsimp only
    rcases login_cases account password d.store d.now d.journal with
      ⟨-, hstore, hsession⟩ | ⟨a, -, hstore, hsession⟩
    · rw [hstore, hsession]
      exact .nothing d.store.sessions
    · rw [hstore, hsession]
      exact issue_booked d.store d.now a.id a.level none d.journal
  | logout token =>
    unfold Desk.perform Call.posting
    dsimp only
    rcases logout_cases token d.store d.journal with ⟨-, hout⟩ | ⟨t, rfl, -, hsuccess, hout⟩
    · rw [hout]
      exact .nothing d.store.sessions
    · rw [hout]
      simp only [hsuccess]
      exact revoke_booked d.store t d.journal
  | setClock now => exact .nothing d.store.sessions

/-! ## The sessions after a call -/

/-- Each session stands under its own token, and under each token there is one. -/
structure Tidy (m : List (String × Session)) : Prop where
  keys : (Keyed.keys m).Nodup
  named : ∀ p ∈ m, p.1 = p.2.token

/-- Under a token there is nothing but the session that it is the token of. -/
theorem Tidy.erase_eq {m : List (String × Session)} (ht : Tidy m) (token : String) :
    Keyed.erase token m = m.filter fun p => !decide (token = p.2.token) := by
  apply List.filter_congr
  intro p hp
  rw [ht.named p hp, ← decide_not, decide_eq_decide]
  exact ne_comm

namespace Booked

variable {p : Posting} {m m' : List (String × Session)} {token : String} {x : Session}

theorem tidy (h : Booked p m m') (ht : Tidy m) : Tidy m' := by
  cases h with
  | opened x m =>
    refine ⟨Keyed.nodup_keys_put ht.keys _ _, fun q hq => ?_⟩
    rcases Keyed.mem_put hq with rfl | hq
    · rfl
    · exact ht.named q hq
  | closed hget =>
    exact ⟨Keyed.nodup_keys_erase ht.keys _, fun q hq => ht.named q (List.mem_filter.mp hq).1⟩
  | purged now m =>
    exact ⟨Keyed.nodup_keys_filter ht.keys _, fun q hq => ht.named q (List.mem_filter.mp hq).1⟩
  | nothing m => exact ht

theorem get?_of_opened (h : Booked (.opened x) m m') : Keyed.get? x.token m' = some x := by
  cases h
  exact Keyed.get?_put_self x.token x m

/-- What is found under a token that is not issued is what was found there, unless it is taken
out. -/
theorem get?_of_unopened (h : Booked p m m') (ht : Tidy m)
    (hother : ∀ y ∈ p.opened?, y.token ≠ token) :
    Keyed.get? token m' = (Keyed.get? token m).filter fun x => !p.removes x := by
  have hall : ∀ c : Option Session, c.filter (fun _ => true) = c := fun c => by cases c <;> rfl
  cases h with
  | opened y m =>
    rw [Keyed.get?_put_of_ne (hother y rfl)]
    exact (hall _).symm
  | @closed token' y m hget =>
    rw [ht.erase_eq]
    exact Keyed.get?_filter ht.keys (fun x => !decide (token' = x.token)) token
  | purged now m => exact Keyed.get?_filter ht.keys (fun x => !x.isExpired now) token
  | nothing m => exact (hall _).symm

/-- The number of sessions, if the one that is issued stands under a new token. -/
theorem length (h : Booked p m m') (ht : Tidy m)
    (hnew : ∀ y ∈ p.opened?, Keyed.get? y.token m = none) :
    m'.length + p.isClosed.toNat + p.purgedCount = m.length + p.opened?.toList.length := by
  cases h with
  | opened y m =>
    rw [Keyed.put_of_get?_eq_none (hnew y rfl), List.length_append]
    rfl
  | @closed token y m hget =>
    rw [(Keyed.perm_cons_erase ht.keys hget).length_eq]
    rfl
  | purged now m =>
    have hsplit := List.length_eq_length_filter_add (l := m) fun p => p.2.isExpired now
    rw [← List.countP_eq_length_filter] at hsplit
    show (m.filter fun p => !p.2.isExpired now).length + 0 + m.countP (fun p => p.2.isExpired now) =
      m.length + 0
    omega
  | nothing m => rfl

end Booked

/-! ## The sessions after many calls -/

/-- The sessions by token, before and after calls that came to something. -/
inductive BookedAll : List Posting → List (String × Session) → List (String × Session) → Prop where
  | nil (m : List (String × Session)) : BookedAll [] m m
  | cons {p : Posting} {ps : List Posting} {m m' m'' : List (String × Session)}
      (hfirst : Booked p m m')
      (hrest : BookedAll ps m' m'') : BookedAll (p :: ps) m m''

theorem postings_booked (d : Desk) (calls : List Call) :
    BookedAll (d.postings calls) d.store.sessions (d.after calls).store.sessions := by
  induction calls generalizing d with
  | nil => exact .nil d.store.sessions
  | cons c calls ih => exact .cons (perform_booked d c) (ih (d.perform c).2)

theorem opened_cons (p : Posting) (ps : List Posting) :
    opened (p :: ps) = p.opened?.toList ++ opened ps := by
  rw [opened, List.filterMap_cons]
  cases p.opened? <;> rfl

namespace BookedAll

variable {ps qs : List Posting} {m m' m'' : List (String × Session)} {token : String} {x : Session}

theorem tidy (h : BookedAll ps m m') (ht : Tidy m) : Tidy m' := by
  induction h with
  | nil m => exact ht
  | cons hfirst _ ih => exact ih (hfirst.tidy ht)

theorem of_append (h : BookedAll (ps ++ qs) m m'') :
    ∃ m', BookedAll ps m m' ∧ BookedAll qs m' m'' := by
  induction ps generalizing m with
  | nil => exact ⟨m, .nil m, h⟩
  | cons p ps ih =>
    cases h with
    | cons hfirst hrest =>
      obtain ⟨m', hps, hqs⟩ := ih hrest
      exact ⟨m', .cons hfirst hps, hqs⟩

theorem get?_of_unopened (h : BookedAll ps m m') (ht : Tidy m)
    (hother : ∀ y ∈ opened ps, y.token ≠ token) :
    Keyed.get? token m' = (Keyed.get? token m).filter fun x => !ps.any (·.removes x) := by
  induction h with
  | nil m => cases Keyed.get? token m <;> rfl
  | @cons p ps m m₁ m₂ hfirst _ ih =>
    rw [opened_cons] at hother
    have hhead : ∀ y ∈ p.opened?, y.token ≠ token := fun y hy =>
      hother y (List.mem_append_left _ (Option.mem_toList.mpr hy))
    have htail : ∀ y ∈ opened ps, y.token ≠ token :=
      fun y hy => hother y (List.mem_append_right _ hy)
    rw [ih (hfirst.tidy ht) htail, hfirst.get?_of_unopened ht hhead, Option.filter_filter]
    congr 1
    funext x
    rw [List.any_cons, Bool.not_or, Bool.and_comm]

/-- A session that is issued under a new token is there until something takes it out, and not from
then on. -/
theorem get?_of_opened {before after : List Posting}
    (h : BookedAll (before ++ .opened x :: after) m m') (ht : Tidy m)
    (hdistinct : ((opened (before ++ .opened x :: after)).map Session.token).Nodup) :
    Keyed.get? x.token m' = if after.any (·.removes x) then none else some x := by
  obtain ⟨m₁, hbefore, hrest⟩ := h.of_append
  cases hrest with
  | @cons _ _ _ m₂ _ hx hafter =>
    -- Its token is not given again, so all that matters is what takes the session out.
    have hother : ∀ y ∈ opened after, y.token ≠ x.token := by
      intro y hy heq
      rw [opened, List.filterMap_append, ← opened, ← opened, opened_cons,
        List.map_append] at hdistinct
      have hsecond := (List.nodup_append.mp hdistinct).2.1
      exact (List.nodup_cons.mp hsecond).1 (List.mem_map.mpr ⟨y, hy, heq⟩)
    rw [hafter.get?_of_unopened (hx.tidy (hbefore.tidy ht)) hother, hx.get?_of_opened,
      Option.filter_some]
    cases after.any (·.removes x) <;> rfl

/-- The number of sessions, if those that are issued have tokens of their own. -/
theorem length (h : BookedAll ps m m') (ht : Tidy m)
    (hdistinct : ((opened ps).map Session.token).Nodup)
    (hnew : ∀ y ∈ opened ps, Keyed.get? y.token m = none) :
    m'.length + ps.countP Posting.isClosed + (ps.map Posting.purgedCount).sum =
      m.length + (opened ps).length := by
  induction h with
  | nil m => rfl
  | @cons p ps m m₁ m₂ hfirst _ ih =>
    rw [opened_cons, List.map_append] at hdistinct
    rw [opened_cons] at hnew
    have hhead := hfirst.length ht fun y hy =>
      hnew y (List.mem_append_left _ (Option.mem_toList.mpr hy))
    have htail := ih (hfirst.tidy ht) (List.nodup_append.mp hdistinct).2.1 fun y hy => by
      have hother : ∀ z ∈ p.opened?, z.token ≠ y.token := fun z hz =>
        (List.nodup_append.mp hdistinct).2.2 _ (List.mem_map_of_mem (Option.mem_toList.mpr hz)) _
          (List.mem_map_of_mem hy)
      rw [hfirst.get?_of_unopened ht hother, hnew y (List.mem_append_right _ hy)]
      rfl
    have hclosed : (p :: ps).countP Posting.isClosed =
        ps.countP Posting.isClosed + p.isClosed.toNat := by
      rw [List.countP_cons]
      cases p.isClosed <;> rfl
    rw [opened_cons, List.length_append, hclosed, List.map_cons, List.sum_cons]
    omega

end BookedAll

/-! ## What a store accounts for -/

/-- What is in a store, by what its calls came to. -/
structure Accounted (ps : List Posting) (s : Store) : Prop where
  /-- Each session stands under its own token. -/
  named : ∀ p ∈ s.sessions, p.1 = p.2.token
  /-- As many are there as were issued, less those that were revoked and those that were purged. -/
  size : (s.size : Int) =
    (opened ps).length - ps.countP Posting.isClosed - (ps.map Posting.purgedCount).sum
  /-- One that was issued is there unless it was revoked since, or the store was purged since at its
  end or later. -/
  issued : ∀ before x after, ps = before ++ .opened x :: after →
    s.get? x.token = if after.any (·.removes x) then none else some x
  /-- No other is there. -/
  unknown : ∀ token, (∀ x ∈ opened ps, x.token ≠ token) → s.get? token = none

theorem BookedAll.accounted {ps : List Posting} {s : Store} (h : BookedAll ps [] s.sessions)
    (hdistinct : ((opened ps).map Session.token).Nodup) : Accounted ps s := by
  have hempty : Tidy [] := ⟨List.nodup_nil, fun _ hp => absurd hp List.not_mem_nil⟩
  refine ⟨(h.tidy hempty).named, ?_, ?_, ?_⟩
  · have hlength := h.length hempty hdistinct fun _ _ => rfl
    rw [List.length_nil, Nat.zero_add] at hlength
    rw [Store.size]
    omega
  · rintro before x after rfl
    exact h.get?_of_opened hempty hdistinct
  · intro token hother
    exact h.get?_of_unopened hempty hother

namespace Desk

variable {d : Desk}

/-- A store that was empty accounts for every session after any calls and changes of its clock that
gave no token twice. A token is revoked, and its holder logged out, if there is a session under it,
and only then. A purge takes out exactly what has ended then, and to issue a session whose end is
out of range leaves everything as it is, but for the token that is taken for it. -/
theorem accounts (hempty : d.store.sessions = []) (calls : List Call)
    (hdistinct : ((opened (d.postings calls)).map Session.token).Nodup) :
    Accounted (d.postings calls) (d.after calls).store ∧
      (∀ token, ((d.after calls).perform (.revoke token)).1 =
        ((d.after calls).store.get? token).isSome) ∧
      (∀ token, ((d.after calls).perform (.logout token)).1 = .success ↔
        ∃ t, token = some t ∧ t ≠ "" ∧ ((d.after calls).store.get? t).isSome) ∧
      (((d.after calls).perform .purge).2.store.sessions =
          (d.after calls).store.sessions.filter (fun p => !p.2.isExpired (d.after calls).now) ∧
        ((d.after calls).perform .purge).1 =
          (d.after calls).store.sessions.countP fun p => p.2.isExpired (d.after calls).now) ∧
      ∀ userId level ttl err, ((d.after calls).perform (.issue userId level ttl)).1 = .error err →
        ((d.after calls).perform (.issue userId level ttl)).2 =
          { d.after calls with
            store := { (d.after calls).store with taken := (d.after calls).store.taken + 1 } } := by
  refine ⟨?_, fun token => ?_, fun token => ?_, ⟨?_, ?_⟩, ?_⟩
  · have hbooked := postings_booked d calls
    rw [hempty] at hbooked
    exact hbooked.accounted hdistinct
  · exact revoke_found _ token _
  · exact logout_eq_success_iff token _ _
  · exact congrArg Store.sessions (purge_sessions _ _ _)
  · exact purge_count _ _ _
  · intro userId level ttl err herr
    unfold perform at herr ⊢
    dsimp only at herr ⊢
    rcases issue_cases (d.after calls).store (d.after calls).now userId level ttl
      (d.after calls).journal with
      ⟨err', hissue⟩ | ⟨x, j', -, hissue⟩
    · rw [hissue]
    · rw [hissue] at herr
      cases herr

/-- An empty store whose tokens are rows of one letter. -/
def newDesk : Desk where
  store := { tokens := fun n => String.ofList (List.replicate (n + 1) 't') }
  now := 0

/-- Three sessions are issued, for a second and for two. Then the clock goes back to the end of the
first and the store is purged, and it goes on to the last instant, after which no session can end.
The first session is gone when its token is revoked, and the third is not. -/
def restlessCalls : List Call :=
  [.issue "ann" .elevated (some 1000000), .setClock 5000000,
    .issue "bob" .authenticated (some 2000000), .issue "dee" .authenticated (some 2000000),
    .setClock 1000000, .purge, .setClock lastInstant,
    .issue "cy" .authenticated none, .revoke "t", .revoke "ttt"]

theorem accounts_restless :
    newDesk.postings restlessCalls =
        [.opened ⟨"t", .elevated, 1000000, "ann"⟩, .nothing,
          .opened ⟨"tt", .authenticated, 7000000, "bob"⟩,
          .opened ⟨"ttt", .authenticated, 7000000, "dee"⟩, .nothing, .purged 1000000 1,
          .nothing, .nothing, .nothing, .closed "ttt"] ∧
      (newDesk.after restlessCalls).store.size = 1 ∧
      (newDesk.after restlessCalls).store.get? "t" = none ∧
      (newDesk.after restlessCalls).store.get? "tt" = some ⟨"tt", .authenticated, 7000000, "bob"⟩ ∧
      (newDesk.after restlessCalls).store.get? "ttt" = none ∧
      (newDesk.after restlessCalls).store.get? "tttt" = none ∧
      ((newDesk.after restlessCalls).perform (.revoke "tt")).1 = true ∧
      ((newDesk.after restlessCalls).perform (.logout (some "tt"))).1 = .success := by
  have hpostings : newDesk.postings restlessCalls =
      [.opened ⟨"t", .elevated, 1000000, "ann"⟩, .nothing,
        .opened ⟨"tt", .authenticated, 7000000, "bob"⟩,
        .opened ⟨"ttt", .authenticated, 7000000, "dee"⟩, .nothing, .purged 1000000 1,
        .nothing, .nothing, .nothing, .closed "ttt"] := rfl
  have hdistinct : ((opened (newDesk.postings restlessCalls)).map Session.token).Nodup := by
    rw [hpostings]
    decide
  obtain ⟨haccounted, hrevoke, hlogout, -, -⟩ := accounts (d := newDesk) rfl restlessCalls hdistinct
  rw [hpostings] at haccounted
  have hstays : (newDesk.after restlessCalls).store.get? "tt" =
      some ⟨"tt", .authenticated, 7000000, "bob"⟩ :=
    haccounted.issued [_, _] ⟨"tt", .authenticated, 7000000, "bob"⟩ _ rfl
  refine ⟨hpostings, Int.ofNat.inj haccounted.size, ?_, hstays, ?_, ?_, ?_, ?_⟩
  · exact haccounted.issued [] ⟨"t", .elevated, 1000000, "ann"⟩ _ rfl
  · exact haccounted.issued [_, _, _] ⟨"ttt", .authenticated, 7000000, "dee"⟩ _ rfl
  · exact haccounted.unknown "tttt" (by decide)
  · rw [hrevoke, hstays]
    rfl
  · exact (hlogout (some "tt")).mpr ⟨"tt", rfl, by decide, by rw [hstays]; rfl⟩

end Desk

end Waypost.Access
