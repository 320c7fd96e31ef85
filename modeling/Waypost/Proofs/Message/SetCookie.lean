import Waypost.Proofs.Message.Cookie
import Waypost.Proofs.Number.Integer

/-!
# A cookie of a response comes back

A response writes its cookie as a name, a value and those attributes that say something; the reader
takes an attribute that is not there for one that says nothing.

* `SetCookie.Sendable` : a cookie whose parts can be told apart in a header, and whose age can be
  read;
* `withAttribute_path`, ... : an attribute is read by its name; `withAttributes_attributes?` : those
  that are written, and those that are left out, are read as what they were;
* `parse_headerText` : the whole cookie is.
-/

namespace Waypost

open Text Number

theorem cookiePart_toString (n : Int) : CookiePart (toString n) := by
  refine ⟨bare_of_forall fun c hc => ?_, fun hsemicolon => ?_⟩
  · rcases mem_toString hc with rfl | hdigit
    · decide
    · exact isBlank_of_isDigit hdigit
  · rcases mem_toString hsemicolon with hminus | hdigit
    · exact absurd hminus (by decide)
    · exact absurd hdigit (by decide)

namespace SetCookie

/-- A cookie whose parts can be told apart in a header, and whose age is not too long to be read. -/
structure Sendable (c : SetCookie) : Prop where
  name : CookiePart c.name
  equals : '=' ∉ c.name.toList
  value : CookiePart c.value
  maxAge : ∀ n, c.maxAge = some n → (Nat.toDigits 10 n.natAbs).length ≤ maxDigits
  path : CookiePart c.path
  domain : ∀ d, c.domain = some d → d ≠ "" ∧ CookiePart d
  sameSite : CookiePart c.sameSite

/-! ## Attributes -/

/-- An attribute with a text, unless the text is empty. -/
def textAttribute? (key value : String) : Option String :=
  if value.isEmpty then none else some (cookiePair (key, value))

/-- An attribute that is there or not. -/
def flagAttribute? (key : String) (isSet : Bool) : Option String :=
  if isSet then some key else none

/-- The attributes in their order. -/
def attributes? (c : SetCookie) : List (Option String) :=
  [c.maxAge.map fun n => cookiePair ("Max-Age", toString n), textAttribute? "Path" c.path,
    c.domain.bind (textAttribute? "Domain"), flagAttribute? "Secure" c.secure,
    flagAttribute? "HttpOnly" c.httpOnly, textAttribute? "SameSite" c.sameSite]

variable {c c' : SetCookie}

theorem parts_eq (c : SetCookie) :
    c.parts = cookiePair (c.name, c.value) :: c.attributes?.flatMap Option.toList := by
  have htext : ∀ key value : String,
      (if value.isEmpty then [] else [cookiePair (key, value)]) =
        (textAttribute? key value).toList := by
    intro key value
    unfold textAttribute?
    split_ifs <;> rfl
  have hflag : ∀ (key : String) (isSet : Bool),
      (if isSet then [key] else []) = (flagAttribute? key isSet).toList := by
    intro key isSet
    unfold flagAttribute?
    split_ifs <;> rfl
  have hpath : (if c.path.isEmpty then [] else ["Path=" ++ c.path]) =
      (textAttribute? "Path" c.path).toList :=
    htext "Path" c.path
  have hsite : (if c.sameSite.isEmpty then [] else ["SameSite=" ++ c.sameSite]) =
      (textAttribute? "SameSite" c.sameSite).toList := htext "SameSite" c.sameSite
  have hdomain : ∀ d : String, (if d.isEmpty then [] else ["Domain=" ++ d]) =
      (textAttribute? "Domain" d).toList :=
    htext "Domain"
  unfold parts attributes?
  rw [hpath, hsite, hflag, hflag]
  cases c.domain with
  | none => cases c.maxAge <;> simp [cookiePair]
  | some d =>
    dsimp only
    rw [hdomain]
    cases c.maxAge <;> simp [cookiePair]

/-! ## Reading them -/

theorem splitAttribute_pair {key : String} (hkey : '=' ∉ key.toList) (value : String) :
    splitAttribute (cookiePair (key, value)) = (key, value) := by
  rw [splitAttribute, cut?_cookiePair hkey]
  rfl

theorem withAttribute_maxAge {n : Int} (hlength : (Nat.toDigits 10 n.natAbs).length ≤ maxDigits) :
    c.withAttribute (cookiePair ("Max-Age", toString n)) = .ok { c with maxAge := some n } := by
  have hequals : '=' ∉ "Max-Age".toList := by decide
  have hlower : lower "Max-Age" = "max-age" := by decide
  simp only [withAttribute, splitAttribute_pair hequals, hlower, readInteger_toString hlength]

theorem withAttribute_path (path : String) :
    c.withAttribute (cookiePair ("Path", path)) = .ok { c with path } := by
  unfold withAttribute
  rw [splitAttribute_pair (by decide)]
  rfl

theorem withAttribute_domain (d : String) :
    c.withAttribute (cookiePair ("Domain", d)) = .ok { c with domain := some d } := by
  unfold withAttribute
  rw [splitAttribute_pair (by decide)]
  rfl

theorem withAttribute_sameSite (sameSite : String) :
    c.withAttribute (cookiePair ("SameSite", sameSite)) = .ok { c with sameSite } := by
  unfold withAttribute
  rw [splitAttribute_pair (by decide)]
  rfl

section

variable {rest : List (Option String)}

/-- An attribute that is there is read, and one that is not changes nothing. -/
theorem withAttributes_cons {a? : Option String}
    (hread : ∀ a, a? = some a → c.withAttribute a = .ok c') (hskip : a? = none → c = c') :
    c.withAttributes ((a? :: rest).flatMap Option.toList) =
      c'.withAttributes (rest.flatMap Option.toList) := by
  cases a? with
  | none =>
    rw [hskip rfl]
    rfl
  | some a =>
    rw [List.flatMap_cons, Option.toList_some, List.singleton_append, withAttributes, hread a rfl]

/-- A text is read, and an empty one is what is there already. -/
theorem withAttributes_text {key value : String}
    (hread : value ≠ "" → c.withAttribute (cookiePair (key, value)) = .ok c')
    (hempty : value = "" → c = c') :
    c.withAttributes ((textAttribute? key value :: rest).flatMap Option.toList) =
      c'.withAttributes (rest.flatMap Option.toList) := by
  unfold textAttribute?
  by_cases hvalue : value = ""
  · rw [hvalue]
    exact withAttributes_cons nofun fun _ => hempty hvalue
  · rw [if_neg fun h => hvalue (String.isEmpty_iff.mp h)]
    refine withAttributes_cons (fun a ha => ?_) nofun
    rw [← Option.some.inj ha]
    exact hread hvalue

theorem withAttributes_flag {key : String} {isSet : Bool}
    (hread : isSet = true → c.withAttribute key = .ok c') (hunset : isSet = false → c = c') :
    c.withAttributes ((flagAttribute? key isSet :: rest).flatMap Option.toList) =
      c'.withAttributes (rest.flatMap Option.toList) := by
  cases isSet with
  | false => exact withAttributes_cons nofun fun _ => hunset rfl
  | true =>
    refine withAttributes_cons (fun a ha => ?_) nofun
    rw [← Option.some.inj ha]
    exact hread rfl

end

/-- The attributes that are written give a cookie of the same name and value what it had. -/
theorem withAttributes_attributes? (h : c.Sendable) :
    withAttributes
      { name := c.name, value := c.value, path := "", httpOnly := false, sameSite := "" }
      (c.attributes?.flatMap Option.toList) = .ok c := by
  obtain ⟨name, value, maxAge, path, domain, secure, httpOnly, sameSite⟩ := c
  have hage : ∀ n, maxAge = some n → (Nat.toDigits 10 n.natAbs).length ≤ maxDigits := h.maxAge
  have hdomain : ∀ d, domain = some d → d ≠ "" := fun d hd => (h.domain d hd).1
  simp only [attributes?]
  -- One attribute after another: what is left out stands for what the reader begins with.
  calc
    _ = withAttributes ⟨name, value, maxAge, "", none, false, false, ""⟩ _ := by
      refine withAttributes_cons (fun a ha => ?_) fun hnone => ?_
      · obtain ⟨n, rfl, rfl⟩ := Option.map_eq_some_iff.mp ha
        exact withAttribute_maxAge (hage n rfl)
      · rw [Option.map_eq_none_iff.mp hnone]
    _ = withAttributes ⟨name, value, maxAge, path, none, false, false, ""⟩ _ :=
      withAttributes_text (fun _ => withAttribute_path path) fun hempty => by rw [hempty]
    _ = withAttributes ⟨name, value, maxAge, path, domain, false, false, ""⟩ _ := by
      cases domain with
      | none => exact withAttributes_cons nofun fun _ => rfl
      | some d =>
        exact withAttributes_text (fun _ => withAttribute_domain d) fun hempty =>
          absurd hempty (hdomain d rfl)
    _ = withAttributes ⟨name, value, maxAge, path, domain, secure, false, ""⟩ _ :=
      withAttributes_flag (fun hset => by rw [hset]; rfl) fun hunset => by rw [hunset]
    _ = withAttributes ⟨name, value, maxAge, path, domain, secure, httpOnly, ""⟩ _ :=
      withAttributes_flag (fun hset => by rw [hset]; rfl) fun hunset => by rw [hunset]
    _ = withAttributes ⟨name, value, maxAge, path, domain, secure, httpOnly, sameSite⟩ _ :=
      withAttributes_text (fun _ => withAttribute_sameSite sameSite) fun hempty => by rw [hempty]
    _ = .ok ⟨name, value, maxAge, path, domain, secure, httpOnly, sameSite⟩ := rfl

/-! ## The whole cookie -/

theorem Sendable.parts (h : c.Sendable) : ∀ p ∈ c.parts, CookiePart p := by
  have htext : ∀ {key value a : String}, textAttribute? key value = some a → CookiePart key →
      CookiePart value → CookiePart a := by
    intro key value a ha hkey hvalue
    unfold textAttribute? at ha
    split_ifs at ha
    rw [← Option.some.inj ha]
    exact hkey.pair hvalue
  have hflag : ∀ {key a : String} {isSet : Bool}, flagAttribute? key isSet = some a →
      CookiePart key → CookiePart a := by
    intro key a isSet ha hkey
    unfold flagAttribute? at ha
    split_ifs at ha
    rw [← Option.some.inj ha]
    exact hkey
  have hattributes : ∀ a? ∈ c.attributes?, ∀ a, a? = some a → CookiePart a := by
    simp only [attributes?, List.forall_mem_cons]
    refine ⟨fun a ha => ?_, fun a ha => htext ha (by decide) h.path, fun a ha => ?_,
      fun a ha => hflag ha (by decide), fun a ha => hflag ha (by decide),
        fun a ha => htext ha (by decide) h.sameSite, nofun⟩
    · obtain ⟨n, -, rfl⟩ := Option.map_eq_some_iff.mp ha
      exact CookiePart.pair (by decide) (cookiePart_toString n)
    · obtain ⟨d, hd, htext'⟩ := Option.bind_eq_some_iff.mp ha
      exact htext htext' (by decide) (h.domain d hd).2
  rw [parts_eq, List.forall_mem_cons]
  refine ⟨h.name.pair h.value, fun a ha => ?_⟩
  obtain ⟨a?, hmem, hsome⟩ := List.mem_flatMap.mp ha
  exact hattributes a? hmem a (Option.mem_toList.mp hsome)

/-- A cookie whose parts can be told apart is read as it was written, whichever of its attributes
are there. -/
theorem parse_headerText (h : c.Sendable) : parse c.headerText = .ok c := by
  have hparts : cookieParts c.headerText = cookiePair (c.name, c.value) :: c.attributes?.flatMap
      Option.toList := by
    rw [headerText, cookieParts_intercalate (by rw [parts_eq]; exact List.cons_ne_nil _ _) h.parts,
      parts_eq]
  have hbare : bare (cookiePair (c.name, c.value)) =
      { name := c.name, value := c.value, path := "", httpOnly := false, sameSite := "" } := by
    unfold bare
    rw [splitAttribute_pair h.equals]
  unfold parse
  rw [hparts]
  dsimp only
  rw [hbare, withAttributes_attributes? h]

/-- A cookie without a name, with a value and a path that look like attributes and an age before its
time. -/
def oddCookie : SetCookie where
  name := ""
  value := "Path=/x=1"
  maxAge := some (-86400)
  path := "Secure, =Domain"
  domain := some "a=b"
  httpOnly := false
  sameSite := ""

theorem parse_headerText_odd :
    oddCookie.headerText = "=Path=/x=1; Max-Age=-86400; Path=Secure, =Domain; Domain=a=b" ∧
      parse "=Path=/x=1; Max-Age=-86400; Path=Secure, =Domain; Domain=a=b" = .ok oddCookie := by
  have htext : oddCookie.headerText =
      "=Path=/x=1; Max-Age=-86400; Path=Secure, =Domain; Domain=a=b" := by decide
  have hage : ∀ n, oddCookie.maxAge = some n → (Nat.toDigits 10 n.natAbs).length ≤ maxDigits := by
    intro n hn
    rw [← Option.some.inj hn]
    decide
  have hdomain : ∀ d, oddCookie.domain = some d → d ≠ "" ∧ CookiePart d := by
    intro d hd
    rw [← Option.some.inj hd]
    decide
  exact ⟨htext, htext ▸ parse_headerText
    ⟨by decide, by decide, by decide, hage, by decide, hdomain, by decide⟩⟩

end SetCookie

end Waypost
