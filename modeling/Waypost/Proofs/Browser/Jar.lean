import Waypost.Browser.Jar
import Waypost.Proofs.Message.Cookie

/-!
# What a jar gives back

A page has its jar from writing one text after another, whatever the texts say. What it keeps can
stand side by side in one text, so that each cookie is read back from the text of all.

* `Jar.Written` : the jars that a page can have; `Jar.Tidy` : names are there once, and neither
  names nor values can be mistaken for anything else; `Jar.Written.tidy`;
* `Jar.get?_eq` : a cookie is read from the text of all if it is kept and live;
* `Jar.assign_parts` : what a text with given parts does to a jar.
-/

namespace Waypost.Browser

open Text Time

/-! ## Attributes -/

namespace Expiry

variable {now : Instant} {e : Expiry} {attr : String}

/-- A number of seconds counts from now on. -/
theorem withAttribute_seconds {name value : String} {n : Int} {d : Duration} {t : Instant}
    (hsplit : splitAttribute attr = (name, value)) (hname : lower (strip name) = "max-age")
    (hread : Number.readInteger value = .ok n) (hspan : Duration.ofSeconds n = .ok d)
    (hend : Instant.add now d = .ok t) :
    e.withAttribute now attr = .ok (.stamp (.fixed t)) := by
  unfold withAttribute
  rw [hsplit]
  dsimp only
  split
  · rw [hread]
    dsimp only
    rw [hspan]
    dsimp only
    rw [hend]
  · next h => exact absurd (hname.symm.trans h) (by decide)
  · next hother _ => exact absurd hname hother

/-- An attribute with another name says nothing about the end of a cookie. -/
theorem withAttribute_other (hseconds : lower (strip (splitAttribute attr).1) ≠ "max-age")
    (hdate : lower (strip (splitAttribute attr).1) ≠ "expires") :
    e.withAttribute now attr = .ok e := by
  unfold withAttribute
  generalize splitAttribute attr = pair at hseconds hdate ⊢
  obtain ⟨name, value⟩ := pair
  dsimp only at hseconds hdate ⊢
  split
  · next h => exact absurd h hseconds
  · next h => exact absurd h hdate
  · rfl

-- Comparing the two sides must not look into what one attribute does.
attribute [local irreducible] withAttribute in
theorem withAttributes_eq (now : Instant) (e : Expiry) (attr : String) (attrs : List String) :
    e.withAttributes now (attr :: attrs) =
      match e.withAttribute now attr with
      | .error f => .error f
      | .ok e' => e'.withAttributes now attrs := rfl

theorem withAttributes_cons {e' : Expiry} (attrs : List String)
    (h : e.withAttribute now attr = .ok e') :
    e.withAttributes now (attr :: attrs) = e'.withAttributes now attrs := by
  rw [withAttributes_eq, h]

theorem withAttributes_others {attrs : List String}
    (hseconds : ∀ a ∈ attrs, lower (strip (splitAttribute a).1) ≠ "max-age")
    (hdate : ∀ a ∈ attrs, lower (strip (splitAttribute a).1) ≠ "expires") :
    e.withAttributes now attrs = .ok e := by
  induction attrs with
  | nil => rfl
  | cons a attrs ih =>
    rw [withAttributes_cons attrs
      (withAttribute_other (hseconds a List.mem_cons_self) (hdate a List.mem_cons_self))]
    exact ih (fun b hb => hseconds b (List.mem_cons_of_mem a hb)) fun b hb =>
      hdate b (List.mem_cons_of_mem a hb)

end Expiry

namespace Jar

/-! ## Jars that a page has written -/

/-- The jars that a page can have, by writing one text after another. -/
inductive Written : Jar → Prop where
  | empty : Written {}
  | assign {j j' : Jar} {now : Instant} {s : String} (hbefore : Written j)
      (hassign : j.assign now s = .ok j') : Written j'

/-- Each name is there once, and names and values can stand side by side in one text. -/
structure Tidy (j : Jar) : Prop where
  keys : (Keyed.keys j.cookies).Nodup
  pairs : ∀ p ∈ j.cookies, CookieName p.1 ∧ CookiePart p.2.value

variable {j j' : Jar} {now : Instant}

theorem Tidy.put (h : j.Tidy) {name : String} {c : Kept} (hname : CookieName name)
    (hvalue : CookiePart c.value) :
    Tidy ⟨Keyed.put name c j.cookies⟩ := by
  refine ⟨Keyed.nodup_keys_put h.keys name c, fun p hp => ?_⟩
  rcases Keyed.mem_put hp with rfl | hp
  · exact ⟨hname, hvalue⟩
  · exact h.pairs p hp

theorem Tidy.erase (h : j.Tidy) (name : String) : Tidy ⟨Keyed.erase name j.cookies⟩ :=
  ⟨Keyed.nodup_keys_filter h.keys _, fun p hp => h.pairs p (List.mem_filter.mp hp).1⟩

theorem Tidy.keep (h : j.Tidy) {name value : String} {e : Expiry} (hname : CookieName name)
    (hvalue : CookiePart value) (hkeep : j.keep now name value e = .ok j') : j'.Tidy := by
  unfold Jar.keep at hkeep
  split at hkeep
  · rw [← Except.ok.inj hkeep]
    exact h.put hname hvalue
  · cases hkeep
  · split_ifs at hkeep
    · rw [← Except.ok.inj hkeep]
      exact h.erase name
    · rw [← Except.ok.inj hkeep]
      exact h.put hname hvalue

/-- The name and the value that a part gives are fit to be kept. -/
theorem cookieName_of_cut? {part key value : String} (hpart : CookiePart part)
    (hcut : cut? '=' part = some (key, value)) (hkey : (strip key).isEmpty = false) :
    CookieName (strip key) ∧ CookiePart (strip value) := by
  obtain ⟨hchars, hequals⟩ := of_cut? hcut
  have hsemicolon := hpart.semicolon
  rw [hchars, List.mem_append, List.mem_cons, not_or, not_or] at hsemicolon
  refine ⟨⟨?_, ?_, ?_, ?_⟩, ?_, ?_⟩
  · intro hempty
    rw [hempty] at hkey
    cases hkey
  · rw [toList_strip]
    exact bare_stripChars _
  · rw [toList_strip]
    exact fun hmem => hequals (mem_of_mem_stripChars hmem)
  · rw [toList_strip]
    exact fun hmem => hsemicolon.1 (mem_of_mem_stripChars hmem)
  · rw [toList_strip]
    exact bare_stripChars _
  · rw [toList_strip]
    exact fun hmem => hsemicolon.2.2 (mem_of_mem_stripChars hmem)

theorem Tidy.assign (h : j.Tidy) {s : String} (hassign : j.assign now s = .ok j') : j'.Tidy := by
  unfold Jar.assign at hassign
  split at hassign
  · rw [← Except.ok.inj hassign]
    exact h
  · rename_i first attrs hparts
    have hfirst : CookiePart first := cookiePart_of_mem (hparts ▸ List.mem_cons_self)
    split at hassign
    · rw [← Except.ok.inj hassign]
      exact h
    · rename_i key value hcut
      split_ifs at hassign with hkey
      · rw [← Except.ok.inj hassign]
        exact h
      · obtain ⟨hname, hvalue⟩ := cookieName_of_cut? hfirst hcut (Bool.eq_false_iff.mpr hkey)
        split at hassign
        · cases hassign
        · exact h.keep hname hvalue hassign

theorem Written.tidy (h : j.Written) : j.Tidy := by
  induction h with
  | empty => exact ⟨List.nodup_nil, fun p hp => absurd hp List.not_mem_nil⟩
  | assign hbefore hassign ih => exact ih.assign hassign

/-! ## Reading -/

/-- A cookie is read from the text of all if it is kept and live. -/
theorem get?_eq (h : j.Tidy) (name : String) :
    j.get? now name = ((Keyed.get? name j.cookies).filter fun c => c.isLive now).map
      Kept.value := by
  have hpairs : ∀ p ∈ j.live now, CookieName p.1 ∧ CookiePart p.2 := by
    intro p hp
    obtain ⟨c, hc, rfl⟩ := List.mem_map.mp hp
    exact h.pairs c (List.mem_filter.mp hc).1
  rw [Jar.get?, text, show (fun c : String × String => c.1 ++ "=" ++ c.2) = cookiePair from rfl,
    get?_parseCookies hpairs, live, Keyed.get?_map, Keyed.get?_filter h.keys fun c => c.isLive now]

/-! ## Writing -/

/-- What a text with given parts does to a jar. -/
theorem assign_parts (j : Jar) {name value : String} (hname : CookieName name)
    (hvalue : CookiePart value) {attrs : List String} (hattrs : ∀ a ∈ attrs, CookiePart a)
    {e : Expiry} (hexpiry : Expiry.never.withAttributes now attrs = .ok e) :
    j.assign now ("; ".intercalate (cookiePair (name, value) :: attrs)) =
      j.keep now name value e := by
  have hparts : ∀ p ∈ cookiePair (name, value) :: attrs, CookiePart p := by
    intro p hp
    rcases List.mem_cons.mp hp with rfl | hp
    · exact hname.part hvalue
    · exact hattrs p hp
  have hkey : strip name = name := strip_eq_self_iff.mpr hname.bare
  have hnonempty : ¬ name.isEmpty := fun hempty => hname.nonempty (String.isEmpty_iff.mp hempty)
  unfold assign
  rw [cookieParts_intercalate (List.cons_ne_nil _ _) hparts]
  dsimp only
  rw [cut?_cookiePair hname.equals]
  dsimp only
  rw [hkey, if_neg hnonempty, hexpiry, strip_eq_self_iff.mpr hvalue.bare]

end Jar

end Waypost.Browser
