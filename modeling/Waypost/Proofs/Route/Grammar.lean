import Waypost.Proofs.Route.Reversal

/-!
# The grammar of patterns

A pattern is read part by part, with the names seen so far. Which texts are patterns can be said
without the reading, and a pattern that has been read is written as it was.

* `partName?` : the name that a part asks for; `Grammatical` : the parts of a text are those of a
  pattern;
* `Segment.ofPart` : the segment that a part is read as, whatever surrounds it;
  `Segment.text_ofPart` : it is written as the part;
* `PartReads`, `parsePart_eq_ok_iff` : when a part can be read, given the names before it;
* `Grammatical.cons_iff` : what the first part of a pattern asks of itself and of the rest;
* `parseParts_eq_ok_iff`, `parse_eq_ok_iff` : what is read, and when;
* `parse_iff_grammatical` : the whole.
-/

namespace Waypost.Route

open Text

variable {seen : List String} {last : Bool} {part path : String} {parts rest : List String}
  {seg : Segment}
  {segs : List Segment}

/-! ## The grammar -/

/-- The pieces of a path between its slashes, without what stands before the first. -/
def partsOf (path : String) : List String :=
  split '/' (String.ofList (path.toList.drop 1))

/-- The name that a part asks for: what follows a colon or an asterisk. -/
def partName? (part : String) : Option String :=
  match part.toList with
  | ':' :: cs => some (String.ofList cs)
  | '*' :: cs => some (String.ofList cs)
  | _ => none

/-- A part that stands in braces or angle brackets. -/
def Bracketed (part : String) : Prop :=
  (part.toList.head? = some '\x7b' ∧ part.toList.getLast? = some '\x7d') ∨
    (part.toList.head? = some '<' ∧ part.toList.getLast? = some '>')

/-- The parts are those of a pattern. -/
structure Grammatical (parts : List String) : Prop where
  filled : ∀ part ∈ parts.dropLast, part ≠ ""
  plain : ∀ part ∈ parts, ¬ Bracketed part
  named : ∀ part ∈ parts, ∀ name, partName? part = some name → isIdentifier name.toList = true
  distinct : (parts.filterMap partName?).Nodup
  tailLast : ∀ part ∈ parts.dropLast, part.toList.head? ≠ some '*'

/-- The segment that a part is read as. -/
def Segment.ofPart (part : String) : Segment :=
  match part.toList with
  | ':' :: cs => .parameter (String.ofList cs)
  | '*' :: cs => .tail (String.ofList cs)
  | _ => .literal part

/-- A segment is written as the part that it is read from. -/
theorem Segment.text_ofPart (part : String) : (Segment.ofPart part).text = part := by
  unfold Segment.ofPart
  split
  · next cs hpart => rw [Segment.text, String.toList_ofList, ← hpart, String.ofList_toList]
  · next cs hpart => rw [Segment.text, String.toList_ofList, ← hpart, String.ofList_toList]
  · rfl

theorem Segment.name?_ofPart (part : String) : (Segment.ofPart part).name? = partName? part := by
  unfold Segment.ofPart partName?
  split <;> rfl

/-! ## Reading one part -/

/-- A part that can be read after the names `seen`, where `last` says that no part follows. -/
structure PartReads (seen : List String) (last : Bool) (part : String) : Prop where
  filled : last = false → part ≠ ""
  plain : ¬ Bracketed part
  named : ∀ name, partName? part = some name → isIdentifier name.toList = true
  fresh : ∀ name, partName? part = some name → name ∉ seen
  tailLast : last = false → part.toList.head? ≠ some '*'

theorem isBracketed_iff : isBracketed part.toList = true ↔ Bracketed part := by
  simp [isBracketed, Bracketed]

/-- What is asked of a part that is not empty and stands in no brackets. -/
theorem partReads_iff (hne : part ≠ "") (hplain : ¬ Bracketed part) :
    PartReads seen last part ↔
      (∀ name, partName? part = some name → isIdentifier name.toList = true ∧ name ∉ seen) ∧
        (last = false → part.toList.head? ≠ some '*') := by
  constructor
  · intro h
    exact ⟨fun name hname => ⟨h.named name hname, h.fresh name hname⟩, h.tailLast⟩
  · rintro ⟨hname, htail⟩
    exact ⟨fun _ => hne, hplain, fun name hsome => (hname name hsome).1,
      fun name hsome => (hname name hsome).2, htail⟩

theorem partReads_empty : PartReads seen last "" ↔ last = true := by
  constructor
  · intro h
    by_contra hnot
    exact h.filled (Bool.not_eq_true last ▸ hnot) rfl
  · rintro rfl
    exact ⟨nofun, by simp [Bracketed], by simp [partName?], by simp [partName?], nofun⟩

theorem parsePart_eq_ok_iff :
    parsePart seen last part = .ok seg ↔ PartReads seen last part ∧ Segment.ofPart part = seg := by
  cases hpart : part.toList with
  | nil =>
    obtain rfl : part = "" := String.toList_eq_nil_iff.mp hpart
    rw [partReads_empty]
    unfold parsePart Segment.ofPart
    cases last <;> simp
  | cons c cs =>
    have hne : part ≠ "" := by
      rintro rfl
      cases hpart
    unfold parsePart
    rw [hpart]
    dsimp only
    rw [← hpart]
    -- Brackets are found first, so a name in them is never looked at.
    by_cases hbracketed : Bracketed part
    · rw [if_pos (isBracketed_iff.mpr hbracketed)]
      exact ⟨nofun, fun h => absurd hbracketed h.1.plain⟩
    rw [if_neg fun h => hbracketed (isBracketed_iff.mp h), partReads_iff hne hbracketed]
    by_cases hcolon : c = ':'
    · subst hcolon
      cases hname : isIdentifier cs with
      | false => simp [partName?, Segment.ofPart, hpart, hname]
      | true =>
        by_cases hseen : String.ofList cs ∈ seen
        · simp [partName?, Segment.ofPart, hpart, hname, hseen]
        · simp [partName?, Segment.ofPart, hpart, hname, hseen]
    by_cases hstar : c = '*'
    · subst hstar
      cases hname : isIdentifier cs with
      | false => simp [partName?, Segment.ofPart, hpart, hname]
      | true =>
        by_cases hseen : String.ofList cs ∈ seen
        · simp [partName?, Segment.ofPart, hpart, hname, hseen]
        · cases last <;> simp [partName?, Segment.ofPart, hpart, hname, hseen]
    simp [partName?, Segment.ofPart, hpart, hcolon, hstar]

/-! ## Reading the parts -/

theorem parseParts_cons_iff :
    parseParts seen (part :: rest) = .ok segs ↔
      ∃ seg segs', parsePart seen rest.isEmpty part = .ok seg ∧
        parseParts (seg.name?.toList ++ seen) rest = .ok segs' ∧ seg :: segs' = segs := by
  rw [parseParts]
  cases parsePart seen rest.isEmpty part with
  | error flaw => simp
  | ok seg =>
    dsimp only
    cases hrest : parseParts (seg.name?.toList ++ seen) rest with
    | error flaw => simp [hrest]
    | ok segs' => simp [hrest]

theorem grammatical_nil : Grammatical [] :=
  ⟨nofun, nofun, nofun, List.nodup_nil, nofun⟩

theorem mem_dropLast_cons_iff {p : String} :
    p ∈ (part :: rest).dropLast ↔ (rest.isEmpty = false ∧ p = part) ∨ p ∈ rest.dropLast := by
  cases rest with
  | nil => simp
  | cons q rest => simp

theorem filterMap_partName?_cons (part : String) (rest : List String) :
    (part :: rest).filterMap partName? = (partName? part).toList ++ rest.filterMap partName? := by
  cases hname : partName? part with
  | none => simp [hname]
  | some n => simp [hname]

/-- The parts are those of a pattern, and their names are none of `seen`, exactly if the first can
be read and the others are those of a pattern whose names are new after it. -/
theorem Grammatical.cons_iff :
    (Grammatical (part :: rest) ∧ ∀ n ∈ (part :: rest).filterMap partName?, n ∉ seen) ↔
      PartReads seen rest.isEmpty part ∧
        Grammatical rest ∧ ∀ n ∈ rest.filterMap partName?, n ∉ (partName? part).toList ++ seen := by
  rw [filterMap_partName?_cons]
  constructor
  · rintro ⟨h, hnew⟩
    have hdistinct := h.distinct
    rw [filterMap_partName?_cons, List.nodup_append] at hdistinct
    obtain ⟨-, hrest, hapart⟩ := hdistinct
    refine ⟨⟨?_, ?_, ?_, ?_, ?_⟩, ⟨?_, ?_, ?_, hrest, ?_⟩, ?_⟩
    · exact fun hmore => h.filled part (mem_dropLast_cons_iff.mpr (Or.inl ⟨hmore, rfl⟩))
    · exact h.plain part List.mem_cons_self
    · exact h.named part List.mem_cons_self
    · exact fun name hname => hnew name (List.mem_append_left _ (Option.mem_toList.mpr hname))
    · exact fun hmore => h.tailLast part (mem_dropLast_cons_iff.mpr (Or.inl ⟨hmore, rfl⟩))
    · exact fun p hp => h.filled p (mem_dropLast_cons_iff.mpr (Or.inr hp))
    · exact fun p hp => h.plain p (List.mem_cons_of_mem part hp)
    · exact fun p hp => h.named p (List.mem_cons_of_mem part hp)
    · exact fun p hp => h.tailLast p (mem_dropLast_cons_iff.mpr (Or.inr hp))
    · intro n hn hseen
      -- A name that the rest shares with the first part stands twice.
      rcases List.mem_append.mp hseen with hfirst | hseen
      · exact hapart n hfirst n hn rfl
      · exact hnew n (List.mem_append_right _ hn) hseen
  · rintro ⟨hpart, hrest, hnew⟩
    refine ⟨⟨?_, ?_, ?_, ?_, ?_⟩, ?_⟩
    · intro p hp
      rcases mem_dropLast_cons_iff.mp hp with ⟨hmore, rfl⟩ | hp
      · exact hpart.filled hmore
      · exact hrest.filled p hp
    · exact List.forall_mem_cons.mpr ⟨hpart.plain, hrest.plain⟩
    · exact List.forall_mem_cons.mpr ⟨hpart.named, hrest.named⟩
    · have hsingle : (partName? part).toList.Nodup := by
        cases partName? part <;> simp
      rw [filterMap_partName?_cons]
      refine List.nodup_append.mpr ⟨hsingle, hrest.distinct, ?_⟩
      rintro n hfirst m hm rfl
      exact hnew n hm (List.mem_append_left _ hfirst)
    · intro p hp
      rcases mem_dropLast_cons_iff.mp hp with ⟨hmore, rfl⟩ | hp
      · exact hpart.tailLast hmore
      · exact hrest.tailLast p hp
    · intro n hn hseen
      rcases List.mem_append.mp hn with hfirst | hn
      · exact hpart.fresh n (Option.mem_toList.mp hfirst) hseen
      · exact hnew n hn (List.mem_append_right _ hseen)

/-- The parts that are read are those of a pattern with new names, and each is read by itself. -/
theorem parseParts_eq_ok_iff :
    parseParts seen parts = .ok segs ↔
      (Grammatical parts ∧ ∀ n ∈ parts.filterMap partName?, n ∉ seen) ∧
        parts.map Segment.ofPart = segs := by
  induction parts generalizing seen segs with
  | nil => simp [parseParts, grammatical_nil]
  | cons part rest ih =>
    rw [parseParts_cons_iff, Grammatical.cons_iff, List.map_cons]
    constructor
    · rintro ⟨seg, segs', hseg, hsegs', rfl⟩
      obtain ⟨hpart, rfl⟩ := parsePart_eq_ok_iff.mp hseg
      rw [Segment.name?_ofPart] at hsegs'
      obtain ⟨hrest, rfl⟩ := ih.mp hsegs'
      exact ⟨⟨hpart, hrest⟩, rfl⟩
    · rintro ⟨⟨hpart, hrest⟩, rfl⟩
      refine ⟨_, _, parsePart_eq_ok_iff.mpr ⟨hpart, rfl⟩, ?_, rfl⟩
      rw [Segment.name?_ofPart]
      exact ih.mpr ⟨hrest, rfl⟩

/-! ## Reading a pattern -/

theorem pathParts?_eq_some_iff :
    pathParts? path = some parts ↔ path.toList.head? = some '/' ∧ partsOf path = parts := by
  unfold pathParts? partsOf
  split
  · next cs hpath => simp [hpath]
  · next hnone =>
    refine ⟨nofun, ?_⟩
    rintro ⟨hslash, -⟩
    cases hpath : path.toList with
    | nil =>
      rw [hpath] at hslash
      cases hslash
    | cons c cs =>
      rw [hpath] at hslash
      exact absurd (hpath.trans (congrArg (· :: cs) (Option.some.inj hslash))) (hnone cs)

theorem parse_eq_ok_iff {p : Pattern} :
    Pattern.parse path = .ok p ↔
      (path.toList.head? = some '/' ∧ Grammatical (partsOf path)) ∧
        p = ⟨(partsOf path).map Segment.ofPart⟩ := by
  unfold Pattern.parse
  cases hparts : pathParts? path with
  | none =>
    refine ⟨nofun, fun h => ?_⟩
    rw [pathParts?_eq_some_iff.mpr ⟨h.1.1, rfl⟩] at hparts
    cases hparts
  | some parts =>
    obtain ⟨hslash, rfl⟩ := pathParts?_eq_some_iff.mp hparts
    have hread : ∀ segs, parseParts [] (partsOf path) = .ok segs ↔
        Grammatical (partsOf path) ∧ (partsOf path).map Segment.ofPart = segs := by
      intro segs
      rw [parseParts_eq_ok_iff]
      simp
    dsimp only
    cases hsegs : parseParts [] (partsOf path) with
    | error flaw =>
      refine ⟨nofun, fun h => ?_⟩
      rw [(hread _).mpr ⟨h.1.2, rfl⟩] at hsegs
      cases hsegs
    | ok segs =>
      obtain ⟨hgrammar, hsame⟩ := (hread segs).mp hsegs
      rw [hsame]
      constructor
      · intro h
        exact ⟨⟨hslash, hgrammar⟩, (Except.ok.inj h).symm⟩
      · rintro ⟨-, hpattern⟩
        rw [hpattern]

/-- A text is read as a pattern exactly if it begins with a slash and its parts are those of a
pattern; any other has a flaw. What is read has a segment for each part and is written as the text,
so texts that give the same segments are one. -/
theorem parse_iff_grammatical (path : String) :
    ((∃ p, Pattern.parse path = .ok p) ↔
        path.toList.head? = some '/' ∧ Grammatical (partsOf path)) ∧
      (¬ (path.toList.head? = some '/' ∧ Grammatical (partsOf path)) →
        ∃ flaw, Pattern.parse path = .error flaw) ∧
      ∀ p, Pattern.parse path = .ok p →
        p.segments.map Segment.text = partsOf path ∧ p.text = path ∧
          ∀ path' p', Pattern.parse path' = .ok p' → p'.segments = p.segments → path' = path := by
  have hwritten : ∀ {path p}, Pattern.parse path = .ok p →
      p.segments.map Segment.text = partsOf path ∧ p.text = path := by
    intro path p hparse
    obtain ⟨⟨hslash, -⟩, hpattern⟩ := parse_eq_ok_iff.mp hparse
    have htexts : p.segments.map Segment.text = partsOf path := by
      rw [hpattern, List.map_map]
      exact List.map_id'' Segment.text_ofPart (partsOf path)
    refine ⟨htexts, ?_⟩
    rw [Pattern.text, htexts]
    exact pathOfParts_of_pathParts? (pathParts?_eq_some_iff.mpr ⟨hslash, rfl⟩)
  refine ⟨⟨?_, fun h => ⟨_, parse_eq_ok_iff.mpr ⟨h, rfl⟩⟩⟩, fun hnot => ?_, fun p hparse => ?_⟩
  · rintro ⟨p, hparse⟩
    exact (parse_eq_ok_iff.mp hparse).1
  · cases hparse : Pattern.parse path with
    | error flaw => exact ⟨flaw, rfl⟩
    | ok p => exact absurd (parse_eq_ok_iff.mp hparse).1 hnot
  · obtain ⟨htexts, htext⟩ := hwritten hparse
    refine ⟨htexts, htext, fun path' p' hparse' hsame => ?_⟩
    have htext' := (hwritten hparse').2
    rw [Pattern.text, hsame] at htext'
    exact htext'.symm.trans htext

theorem parse_iff_grammatical_files :
    Grammatical ["users", ":user", "files", "*path"] ∧
      (∀ path' p', Pattern.parse path' = .ok p' →
        p'.segments = [.literal "users", .parameter "user", .literal "files", .tail "path"] →
          path' = "/users/:user/files/*path") ∧
      ∃ flaw, Pattern.parse "/users//:user" = .error flaw := by
  have hparts : partsOf "/users/:user/files/*path" = ["users", ":user", "files", "*path"] := by
    decide
  have hread : Pattern.parse "/users/:user/files/*path" =
      .ok ⟨[.literal "users", .parameter "user", .literal "files", .tail "path"]⟩ := rfl
  obtain ⟨haccepted, -, hwritten⟩ := parse_iff_grammatical "/users/:user/files/*path"
  obtain ⟨-, hrejected, -⟩ := parse_iff_grammatical "/users//:user"
  refine ⟨hparts ▸ (haccepted.mp ⟨_, hread⟩).2, (hwritten _ hread).2.2, hrejected fun h => ?_⟩
  exact h.2.filled "" (by decide) rfl

end Waypost.Route
