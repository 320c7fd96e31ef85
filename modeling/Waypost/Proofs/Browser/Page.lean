import Waypost.Proofs.Browser.Jar

/-!
# What a page reads of its cookies

A page writes texts of any kind to its jar, also such as end with a fault, and between them its
clock goes forwards and back. What it reads are the cookies that are kept and live, whatever has
been written.

* `JarWork` : what is done to one jar step by step; `runAt_assign` : writing a text does to the jar
  what `Jar.assign` makes of it, and leaves it as it was if that is a fault;
* `Page`, `PageCall` : a page with its clock, and what happens to it; `performAll_tidy` : the jar
  stays tidy;
* `page_reads_live` : the text of all cookies is read as the live ones, and one of them is found by
  its name.
-/

namespace Waypost.Browser

open Text Time

/-! ## Writing step by step -/

/-- What is done to a jar step by step. What has been changed by the time it ends stays changed,
also if it ends with a fault. -/
abbrev JarWork (α : Type) := ExceptT Fault (StateM Jar) α

namespace JarWork

variable {α β : Type}

/-- What comes of work on a jar. -/
def runAt (x : JarWork α) (j : Jar) : Except Fault α × Jar :=
  x.run.run j

/-- Puts a cookie into the jar. -/
def put (key : String) (c : Kept) : JarWork Unit :=
  modify fun j => ⟨Keyed.put key c j.cookies⟩

/-- Takes a cookie out of the jar. -/
def erase (key : String) : JarWork Unit :=
  modify fun j => ⟨Keyed.erase key j.cookies⟩

/-- The end of a cookie, by one attribute after another. -/
def expiry (now : Instant) (e : Expiry) (attrs : List String) : JarWork Expiry :=
  attrs.foldlM (fun e a => MonadExcept.ofExcept (e.withAttribute now a)) e

/-- Keeps a cookie, or removes it if its end has come. -/
def keep (now : Instant) (key value : String) : Expiry → JarWork Unit
  | .never => put key ⟨value, none⟩
  | .stamp (.floating _) => throw .floatingDate
  | .stamp (.fixed t) => do
    if t ≤ now then erase key
    else put key ⟨value, some t⟩

/-- Writes a cookie given as a text. -/
def assign (now : Instant) (s : String) : JarWork Unit := do
  let first :: attrs := cookieParts s | return
  let some (key, value) := cut? '=' first | return
  if (strip key).isEmpty then return
  let e ← expiry now .never attrs
  keep now (strip key) (strip value) e

/-- The end of work that changes a jar whole or not at all. -/
def settled (j : Jar) : Except Fault Jar → Except Fault Unit × Jar
  | .error f => (.error f, j)
  | .ok j' => (.ok (), j')

theorem runAt_bind (x : JarWork α) (f : α → JarWork β) (j : Jar) :
    (x >>= f).runAt j =
      match x.runAt j with
      | (.error g, j') => (.error g, j')
      | (.ok a, j') => (f a).runAt j' := by
  simp only [runAt, ExceptT.run_bind, StateT.run_bind]
  rcases x.run.run j with ⟨g | a, j'⟩
  · rfl
  · rfl

/-- The attributes are gone through before anything is done to the jar. -/
theorem runAt_expiry (now : Instant) (e : Expiry) (attrs : List String) (j : Jar) :
    (expiry now e attrs).runAt j = (e.withAttributes now attrs, j) := by
  induction attrs generalizing e with
  | nil => rfl
  | cons a attrs ih =>
    unfold expiry at ih ⊢
    rw [List.foldlM_cons, runAt_bind, Expiry.withAttributes_eq]
    cases e.withAttribute now a with
    | error f => rfl
    | ok e' => exact ih e'

theorem runAt_keep (now : Instant) (key value : String) (e : Expiry) (j : Jar) :
    (keep now key value e).runAt j = settled j (j.keep now key value e) := by
  cases e with
  | never => rfl
  | stamp s =>
    cases s with
    | floating t => rfl
    | fixed t =>
      unfold keep Jar.keep
      dsimp only
      split_ifs <;> rfl

/-- Writing a text changes the jar as a whole, or ends with a fault and leaves it as it was. -/
theorem runAt_assign (now : Instant) (s : String) (j : Jar) :
    (assign now s).runAt j = settled j (j.assign now s) := by
  unfold assign Jar.assign
  cases cookieParts s with
  | nil => rfl
  | cons first attrs =>
    dsimp only
    cases cut? '=' first with
    | none => rfl
    | some pair =>
      dsimp only
      split_ifs
      · rfl
      · rw [runAt_bind, runAt_expiry]
        cases Expiry.never.withAttributes now attrs with
        | error f => rfl
        | ok e => exact runAt_keep now (strip pair.1) (strip pair.2) e j

end JarWork

/-! ## Runs -/

/-- A page: what its clock says, and the jar that it writes to. -/
structure Page where
  now : Instant
  jar : Jar := {}

/-- What happens to a page: it writes a text, or its clock is set, forwards or back. -/
inductive PageCall where
  | write (s : String)
  | setClock (t : Instant)

namespace PageCall

/-- What becomes of a page. -/
def perform (p : Page) : PageCall → Page
  | .write s => { p with jar := ((JarWork.assign p.now s).runAt p.jar).2 }
  | .setClock t => { p with now := t }

/-- What becomes of a page by one thing after another. -/
def performAll (p : Page) (calls : List PageCall) : Page :=
  calls.foldl perform p

/-- Whatever is written, names and values stay apart from one another. -/
theorem perform_tidy {p : Page} (h : p.jar.Tidy) (c : PageCall) : (perform p c).jar.Tidy := by
  cases c with
  | write s =>
    change ((JarWork.assign p.now s).runAt p.jar).2.Tidy
    rw [JarWork.runAt_assign]
    cases hassign : p.jar.assign p.now s with
    | error f => exact h
    | ok j => exact h.assign hassign
  | setClock t => exact h

theorem performAll_tidy {p : Page} (h : p.jar.Tidy) (calls : List PageCall) :
    (performAll p calls).jar.Tidy :=
  List.foldlRecOn (motive := fun p => p.jar.Tidy) calls perform h fun _ hp c _ => perform_tidy hp c

end PageCall

/-! ## Reading -/

theorem Kept.isLive_iff {c : Kept} {now : Instant} :
    c.isLive now = true ↔ ∀ t, c.expiresAt = some t → now < t := by
  unfold Kept.isLive
  cases c.expiresAt with
  | none => simp
  | some t => simp

theorem Jar.Tidy.parseCookies_text {j : Jar} (h : j.Tidy) (now : Instant) :
    parseCookies (j.text now) = j.live now := by
  have hpairs : ∀ p ∈ j.live now, CookieName p.1 ∧ CookiePart p.2 := by
    intro p hp
    obtain ⟨c, hc, rfl⟩ := List.mem_map.mp hp
    exact h.pairs c (List.mem_filter.mp hc).1
  have hkeys : Keyed.keys (j.live now) = Keyed.keys (j.cookies.filter fun c => c.2.isLive now) := by
    rw [Jar.live, Keyed.keys, List.map_map]
    rfl
  exact parseCookies_intercalate hpairs (hkeys ▸ Keyed.nodup_keys_filter h.keys _)

/-- A page writes what it likes, and its clock is set as it likes. A text that ends with a fault
leaves the jar as it was. What is read from the text of all cookies are the live ones, and under a
name exactly the value of the cookie that is kept there, if it is live. -/
theorem page_reads_live (start : Instant) (calls : List PageCall) :
    let p := PageCall.performAll ⟨start, {}⟩ calls
    (∀ s f j, (JarWork.assign p.now s).runAt p.jar = (.error f, j) → j = p.jar) ∧
      parseCookies (p.jar.text p.now) = p.jar.live p.now ∧
      ∀ key value, p.jar.get? p.now key = some value ↔
        ∃ c, Keyed.get? key p.jar.cookies = some c ∧ (∀ t, c.expiresAt = some t → p.now < t) ∧
          c.value = value := by
  intro p
  have htidy : p.jar.Tidy :=
    PageCall.performAll_tidy (p := ⟨start, {}⟩) Jar.Written.empty.tidy calls
  refine ⟨fun s f j h => ?_, htidy.parseCookies_text p.now, fun key value => ?_⟩
  · rw [JarWork.runAt_assign] at h
    cases hassign : p.jar.assign p.now s with
    | error g =>
      rw [hassign] at h
      exact (Prod.mk.inj h).2.symm
    | ok j' =>
      rw [hassign] at h
      cases h
  · rw [Jar.get?_eq htidy, Option.map_eq_some_iff]
    simp only [Option.filter_eq_some_iff, Kept.isLive_iff, and_assoc]

/-- Texts without a name, with a value that looks like another cookie, and with an age that is none,
while the clock goes on and back. -/
def restlessCalls : List PageCall :=
  [.write "theme = sid=dark ; path=/", .write "=nameless", .write " sid = a b ; Max-Age=60",
    .setClock 60000000, .write "sid=late; max-age=soon", .setClock (-7)]

theorem page_reads_live_restless :
    let p := PageCall.performAll ⟨0, {}⟩ restlessCalls
    p.jar.get? p.now "sid" = some "a b" ∧
      parseCookies (p.jar.text p.now) = [("theme", "sid=dark"), ("sid", "a b")] ∧
      ∃ f, (JarWork.assign p.now "sid=late; max-age=soon").runAt p.jar = (.error f, p.jar) := by
  intro p
  obtain ⟨hfault, hall, hone⟩ := page_reads_live 0 restlessCalls
  have hsid : Keyed.get? "sid" p.jar.cookies = some ⟨"a b", some 60000000⟩ := rfl
  refine ⟨(hone "sid" "a b").mpr ⟨_, hsid, ?_, rfl⟩, hall, ?_⟩
  · intro t ht
    rw [← Option.some.inj ht]
    decide
  · rcases hrun : (JarWork.assign p.now "sid=late; max-age=soon").runAt p.jar with ⟨f | u, j⟩
    · exact ⟨f, by rw [hfault _ f j hrun]⟩
    · cases hrun

end Waypost.Browser
