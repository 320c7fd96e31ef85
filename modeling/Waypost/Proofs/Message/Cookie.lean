import Waypost.Message.Cookie
import Waypost.Proofs.Keyed
import Waypost.Proofs.Text.Pieces

/-!
# Cookies side by side

* `CookieName`, `CookiePart` : names, and values and attributes, that can stand in a text with
  others;
* `cookieParts_intercalate` : parts that are joined come back as they were;
* `get?_parseCookies` : the cookies of a joined text are the joined ones, the first of each name;
  `parseCookies_intercalate` : all of them, in order, if their names are distinct.
-/

namespace Waypost

open Text

/-- A name that a cookie can have: it is not empty, has no blanks around it, and neither sign that
ends a name. -/
structure CookieName (name : String) : Prop where
  nonempty : name ≠ ""
  bare : Bare name.toList
  equals : '=' ∉ name.toList
  semicolon : ';' ∉ name.toList

/-- A text that can stand between semicolons, alone or as the value of a cookie: it has no blanks
around it and no semicolon. -/
structure CookiePart (part : String) : Prop where
  bare : Bare part.toList
  semicolon : ';' ∉ part.toList

theorem cookiePart_iff {part : String} :
    CookiePart part ↔ strip part = part ∧ ';' ∉ part.toList := by
  rw [strip_eq_self_iff]
  exact ⟨fun h => ⟨h.bare, h.semicolon⟩, fun h => ⟨h.1, h.2⟩⟩

theorem cookieName_iff {name : String} :
    CookieName name ↔ name ≠ "" ∧ '=' ∉ name.toList ∧ CookiePart name :=
  ⟨fun h => ⟨h.nonempty, h.equals, h.bare, h.semicolon⟩, fun h =>
    ⟨h.1, h.2.2.bare, h.2.1, h.2.2.semicolon⟩⟩

instance (part : String) : Decidable (CookiePart part) :=
  decidable_of_iff _ cookiePart_iff.symm

instance (name : String) : Decidable (CookieName name) :=
  decidable_of_iff _ cookieName_iff.symm

/-- A cookie as one part of a text. -/
def cookiePair (p : String × String) : String :=
  p.1 ++ "=" ++ p.2

theorem toList_cookiePair (p : String × String) :
    (cookiePair p).toList = p.1.toList ++ '=' :: p.2.toList := by
  simp [cookiePair]

theorem cut?_cookiePair {p : String × String} (h : '=' ∉ p.1.toList) :
    cut? '=' (cookiePair p) = some p :=
  cut?_append h p.2

/-- Two parts with an equals sign between them are a part. -/
theorem CookiePart.pair {key value : String} (hkey : CookiePart key) (hvalue : CookiePart value) :
    CookiePart (cookiePair (key, value)) := by
  refine ⟨?_, ?_⟩
  · rw [toList_cookiePair]
    exact hkey.bare.append_cons (by decide) hvalue.bare
  · rw [toList_cookiePair, List.mem_append, List.mem_cons, not_or, not_or]
    exact ⟨hkey.semicolon, by decide, hvalue.semicolon⟩

theorem CookieName.part {name value : String} (hname : CookieName name)
    (hvalue : CookiePart value) :
    CookiePart (cookiePair (name, value)) :=
  CookiePart.pair ⟨hname.bare, hname.semicolon⟩ hvalue

/-! ## Parts of a text -/

theorem toList_intercalate (p : String) (ps : List String) :
    ("; ".intercalate (p :: ps)).toList = joinChars ';'
    (p.toList :: ps.map fun q => ' ' :: q.toList) := by
  induction ps generalizing p with
  | nil => simp [joinChars]
  | cons q ps ih =>
    rw [String.intercalate_cons_cons, String.toList_append, String.toList_append, ih q,
      List.map_cons, joinChars]
    rw [joinChars_cons_cons, List.append_assoc]
    rfl

theorem mem_intercalate {c : Char} {ps : List String} (h : c ∈ ("; ".intercalate ps).toList) :
    c = ';' ∨ c = ' ' ∨ ∃ p ∈ ps, c ∈ p.toList := by
  induction ps with
  | nil => exact absurd h List.not_mem_nil
  | cons p ps ih =>
    cases ps with
    | nil =>
      rw [String.intercalate_singleton] at h
      exact Or.inr (Or.inr ⟨p, List.mem_cons_self, h⟩)
    | cons q ps =>
      rw [String.intercalate_cons_cons, String.toList_append, String.toList_append, List.mem_append,
        List.mem_append] at h
      rcases h with (h | h) | h
      · exact Or.inr (Or.inr ⟨p, List.mem_cons_self, h⟩)
      · have hsign : c = ';' ∨ c = ' ' := by simpa using h
        exact hsign.imp_right Or.inl
      · obtain hsign | hsign | ⟨r, hr, hmem⟩ := ih h
        · exact Or.inl hsign
        · exact Or.inr (Or.inl hsign)
        · exact Or.inr (Or.inr ⟨r, List.mem_cons_of_mem p hr, hmem⟩)

/-- Parts that are joined come back as they were. -/
theorem cookieParts_intercalate {ps : List String} (hne : ps ≠ []) (h : ∀ p ∈ ps, CookiePart p) :
    cookieParts ("; ".intercalate ps) = ps := by
  cases ps with
  | nil => exact absurd rfl hne
  | cons p ps =>
    have hpieces : ∀ q ∈ p.toList :: ps.map (fun q => ' ' :: q.toList), ';' ∉ q := by
      intro q hq
      rcases List.mem_cons.mp hq with rfl | hq
      · exact (h p List.mem_cons_self).semicolon
      · obtain ⟨r, hr, rfl⟩ := List.mem_map.mp hq
        rw [List.mem_cons, not_or]
        exact ⟨by decide, (h r (List.mem_cons_of_mem p hr)).semicolon⟩
    have hrest : ∀ q ∈ ps, strip (String.ofList (' ' :: q.toList)) = q := by
      intro q hq
      rw [strip, String.toList_ofList, stripChars_blank_cons (by decide),
        stripChars_of_bare (h q (List.mem_cons_of_mem p hq)).bare, String.ofList_toList]
    rw [cookieParts, split, toList_intercalate, splitChars_joinChars (List.cons_ne_nil _ _) hpieces,
      List.map_cons, List.map_cons, String.ofList_toList,
      strip_eq_self_iff.mpr (h p List.mem_cons_self).bare, List.map_map, List.map_map]
    congr 1
    exact (List.map_congr_left hrest).trans (List.map_id' ps)

/-- A part of a text has no blanks around it and no sign that ends a part. -/
theorem cookiePart_of_mem {s p : String} (h : p ∈ cookieParts s) : CookiePart p := by
  obtain ⟨q, hq, rfl⟩ := List.mem_map.mp h
  obtain ⟨cs, hcs, rfl⟩ := List.mem_map.mp hq
  rw [strip, String.toList_ofList]
  refine ⟨?_, ?_⟩
  · rw [String.toList_ofList]
    exact bare_stripChars cs
  · rw [String.toList_ofList]
    exact fun hmem => notMem_of_mem_splitChars hcs (mem_of_mem_stripChars hmem)

/-! ## Cookies of a request -/

/-- The cookie of a part, if it is one. -/
def readPart? (part : String) : Option (String × String) :=
  (cut? '=' part).map fun p => (strip p.1, strip p.2)

theorem parseCookies_eq (s : String) :
    parseCookies s = ((cookieParts s).filterMap readPart?).foldl
      (fun m p => Keyed.putNew p.1 p.2 m) [] := by
  have hread : readCookie? = readPart? ∘ strip := by
    funext pair
    rw [Function.comp_apply, readCookie?, readPart?]
  rw [parseCookies, cookieParts, List.filterMap_map, hread]

theorem filterMap_cookiePair {ps : List (String × String)}
    (h : ∀ p ∈ ps, CookieName p.1 ∧ CookiePart p.2) :
    (ps.map cookiePair).filterMap readPart? = ps := by
  induction ps with
  | nil => rfl
  | cons p ps ih =>
    obtain ⟨hname, hvalue⟩ := h p List.mem_cons_self
    have hpair : readPart? (cookiePair p) = some p := by
      rw [readPart?, cut?_cookiePair hname.equals, Option.map_some,
        strip_eq_self_iff.mpr hname.bare, strip_eq_self_iff.mpr hvalue.bare]
    rw [List.map_cons, List.filterMap_cons, hpair, ih fun q hq => h q (List.mem_cons_of_mem p hq)]

/-- The parts of a joined text are read as the cookies that were joined. -/
theorem filterMap_cookieParts_intercalate {ps : List (String × String)}
    (h : ∀ p ∈ ps, CookieName p.1 ∧ CookiePart p.2) :
    (cookieParts ("; ".intercalate (ps.map cookiePair))).filterMap readPart? = ps := by
  cases ps with
  | nil => rfl
  | cons p ps =>
    have hparts : ∀ q ∈ (p :: ps).map cookiePair, CookiePart q := by
      intro q hq
      obtain ⟨r, hr, rfl⟩ := List.mem_map.mp hq
      exact (h r hr).1.part (h r hr).2
    have hne : (p :: ps).map cookiePair ≠ [] := List.cons_ne_nil _ _
    rw [cookieParts_intercalate hne hparts, filterMap_cookiePair h]

/-- The cookies of a joined text are the joined ones, the first of each name. -/
theorem get?_parseCookies {ps : List (String × String)}
    (h : ∀ p ∈ ps, CookieName p.1 ∧ CookiePart p.2) (name : String) :
    Keyed.get? name (parseCookies ("; ".intercalate (ps.map cookiePair))) = Keyed.get? name ps := by
  rw [parseCookies_eq, filterMap_cookieParts_intercalate h, Keyed.get?_foldl_putNew]
  rfl

/-- Cookies with names of their own are read from the joined text as they were. -/
theorem parseCookies_intercalate {ps : List (String × String)}
    (h : ∀ p ∈ ps, CookieName p.1 ∧ CookiePart p.2) (hkeys : (Keyed.keys ps).Nodup) :
    parseCookies ("; ".intercalate (ps.map cookiePair)) = ps := by
  rw [parseCookies_eq, filterMap_cookieParts_intercalate h,
    Keyed.foldl_putNew_of_nodup (by rwa [List.nil_append]), List.nil_append]

end Waypost
