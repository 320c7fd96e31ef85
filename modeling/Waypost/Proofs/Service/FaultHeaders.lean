import Waypost.Proofs.Service.Answers

/-!
# The headers of a fault

A response to a fault keeps its own headers, and those of the fault come after them as far as the
response does not have them. Each header is looked up in a response that has the headers before it
already, so of the headers of a fault under one name only the first gets into the response.

* `missing` : the headers whose names others do not have; `firstOfEach` : the first header under
  each name;
* `Legible` : headers that can be looked up; `mergeHeaders_eq` : what is added to a response;
* `answerHttp_headers` : the response to a fault; the missing headers are all in it exactly if no
  two have one name.
-/

namespace Waypost.Service

/-! ## Headers under one name -/

section FirstOfEach

variable {headers own : List (Field × Field)} {p q : Field × Field}

/-- The headers whose names, in any letter case, are not among those of others. -/
def missing (own headers : List (Field × Field)) : List (Field × Field) :=
  headers.filter fun p => nameOf p ∉ own.map nameOf

/-- The first header under each name, in any letter case. -/
def firstOfEach (headers : List (Field × Field)) : List (Field × Field) :=
  headers.eraseDupsBy fun p q => nameOf p = nameOf q

theorem mem_missing : p ∈ missing own headers ↔ p ∈ headers ∧ nameOf p ∉ own.map nameOf := by
  rw [missing, List.mem_filter, decide_eq_true_eq]

theorem missing_cons_of_mem (hmem : nameOf p ∈ own.map nameOf) :
    missing own (p :: headers) = missing own headers :=
  List.filter_cons_of_neg fun hnew => of_decide_eq_true hnew hmem

theorem missing_cons_of_not_mem (hnew : nameOf p ∉ own.map nameOf) :
    missing own (p :: headers) = p :: missing own headers :=
  List.filter_cons_of_pos (decide_eq_true hnew)

theorem missing_append_singleton (own headers : List (Field × Field)) (p : Field × Field) :
    missing (own ++ [p]) headers = (missing own headers).filter fun q => nameOf q ≠ nameOf p := by
  rw [missing, missing, List.filter_filter]
  apply List.filter_congr
  intro q _
  rw [← Bool.decide_and, decide_eq_decide, List.map_append, List.mem_append, List.map_singleton,
    List.mem_singleton]
  tauto

theorem firstOfEach_cons (p : Field × Field) (headers : List (Field × Field)) :
    firstOfEach (p :: headers) =
      p :: firstOfEach (headers.filter fun q => nameOf q ≠ nameOf p) := by
  rw [firstOfEach, List.eraseDupsBy_cons, firstOfEach]
  congr 2
  apply List.filter_congr
  intro q _
  rw [decide_eq_decide, decide_eq_false_iff_not]

/-- The first headers under each name are a part of the headers, in their order. -/
theorem firstOfEach_sublist (headers : List (Field × Field)) :
    List.Sublist (firstOfEach headers) headers := by
  cases headers with
  | nil => exact List.Sublist.refl []
  | cons p rest =>
    rw [firstOfEach_cons]
    exact ((firstOfEach_sublist _).trans List.filter_sublist).cons_cons p
termination_by headers.length
decreasing_by exact Nat.lt_succ_of_le (List.length_filter_le _ _)

/-- Under every name there is one. -/
theorem mem_map_nameOf_firstOfEach (headers : List (Field × Field)) :
    ∀ p ∈ headers, nameOf p ∈ (firstOfEach headers).map nameOf := by
  cases headers with
  | nil => exact fun _ hmem => absurd hmem List.not_mem_nil
  | cons q rest =>
    intro p hmem
    rw [firstOfEach_cons, List.map_cons, List.mem_cons]
    by_cases hname : nameOf p = nameOf q
    · exact .inl hname
    · right
      apply mem_map_nameOf_firstOfEach
      rcases List.mem_cons.mp hmem with rfl | hmem
      · exact absurd rfl hname
      · exact List.mem_filter.mpr ⟨hmem, decide_eq_true hname⟩
termination_by headers.length
decreasing_by exact Nat.lt_succ_of_le (List.length_filter_le _ _)

/-- Under no name there are two. -/
theorem nodup_map_nameOf_firstOfEach (headers : List (Field × Field)) :
    ((firstOfEach headers).map nameOf).Nodup := by
  cases headers with
  | nil => exact List.nodup_nil
  | cons p rest =>
    rw [firstOfEach_cons, List.map_cons, List.nodup_cons]
    constructor
    · intro hmem
      obtain ⟨q, hq, hname⟩ := List.mem_map.mp hmem
      have hother := (List.mem_filter.mp ((firstOfEach_sublist _).mem hq)).2
      exact of_decide_eq_true hother hname
    · apply nodup_map_nameOf_firstOfEach
termination_by headers.length
decreasing_by exact Nat.lt_succ_of_le (List.length_filter_le _ _)

/-- Nothing is left out exactly if no two headers have one name. -/
theorem firstOfEach_eq_self_iff : firstOfEach headers = headers ↔ (headers.map nameOf).Nodup := by
  constructor
  · intro hself
    rw [← hself]
    exact nodup_map_nameOf_firstOfEach headers
  · intro hnodup
    induction headers with
    | nil => rfl
    | cons p rest ih =>
      rw [List.map_cons, List.nodup_cons] at hnodup
      have hrest : (rest.filter fun q => nameOf q ≠ nameOf p) = rest := by
        apply List.filter_eq_self.mpr
        intro q hq
        apply decide_eq_true
        intro hname
        exact hnodup.1 (hname ▸ List.mem_map_of_mem hq)
      rw [firstOfEach_cons, hrest, ih hnodup.2]

end FirstOfEach

/-! ## What is added to a response -/

/-- Headers with names and values. -/
structure Legible (headers : List (Field × Field)) : Prop where
  named : Named headers
  held : ∀ p ∈ headers, p.2.isNone = false

theorem Legible.tail {p : Field × Field} {rest : List (Field × Field)} (h : Legible (p :: rest)) :
    Legible rest where
  named := h.named.tail
  held q hq := h.held q (List.mem_cons_of_mem p hq)

theorem Legible.withHeader {resp : Response} {p : Field × Field} {rest : List (Field × Field)}
    (hown : Legible resp.headers) (h : Legible (p :: rest)) :
    Legible (resp.withHeader p.1 p.2).headers where
  named q hq := by
    rcases List.mem_append.mp hq with hq | hq
    · exact hown.named q hq
    · rw [List.mem_singleton.mp hq]
      exact h.named p List.mem_cons_self
  held q hq := by
    rcases List.mem_append.mp hq with hq | hq
    · exact hown.held q hq
    · rw [List.mem_singleton.mp hq]
      exact h.held p List.mem_cons_self

/-- One header is added if the response does not have its name. -/
theorem mergeHeaders_cons {resp : Response} {p : Field × Field} {rest : List (Field × Field)}
    (hown : Legible resp.headers) (h : Legible (p :: rest)) :
    mergeHeaders resp (p :: rest) =
      mergeHeaders (if nameOf p ∈ resp.headers.map nameOf then resp else resp.withHeader p.1 p.2)
        rest := by
  obtain ⟨key, hkey⟩ := h.named p List.mem_cons_self
  have hname : nameOf p = some key := by rw [nameOf, hkey]; rfl
  rw [mergeHeaders, Response.header?, hkey]
  dsimp only
  rw [Response.findHeader_of_named hown.named key, hname]
  cases hfind : resp.headers.find? fun q => nameOf q = some key with
  | none =>
    have hnew : some key ∉ resp.headers.map nameOf := by
      intro hmem
      obtain ⟨q, hq, hsame⟩ := List.mem_map.mp hmem
      exact List.find?_eq_none.mp hfind q hq (decide_eq_true hsame)
    rw [if_neg hnew]
    rfl
  | some q =>
    have hmem := List.mem_of_find?_eq_some hfind
    have hsame : nameOf q = some key := by simpa using List.find?_some hfind
    have hheld := hown.held q hmem
    rw [if_pos (hsame ▸ List.mem_map_of_mem hmem)]
    dsimp only [Option.map_some, Option.all_some]
    rw [if_neg (Bool.eq_false_iff.mp hheld)]

/-- Of the headers that a response does not have, the first under each name are added. -/
theorem mergeHeaders_eq {headers : List (Field × Field)} (h : Legible headers) {resp : Response}
    (hown : Legible resp.headers) :
    mergeHeaders resp headers =
      .ok (resp.withHeaders (firstOfEach (missing resp.headers headers))) := by
  induction headers generalizing resp with
  | nil =>
    have hnil : firstOfEach (missing resp.headers []) = [] := rfl
    rw [mergeHeaders, hnil, Response.withHeaders, List.append_nil]
  | cons p rest ih =>
    rw [mergeHeaders_cons hown h]
    split_ifs with hmem
    · rw [ih h.tail hown, missing_cons_of_mem hmem]
    · -- The header that is added keeps out the later ones under its name.
      rw [ih h.tail (hown.withHeader h), missing_cons_of_not_mem hmem, firstOfEach_cons]
      rw [Response.withHeader, missing_append_singleton, Response.withHeaders, Response.withHeaders,
        List.append_assoc]
      rfl

/-! ## The response to a fault -/

variable {α : Type} {rules : ErrorRules α} {debug : Bool} {r : Request} {e : HttpError}
  {w w' : World α} {base : Response}

theorem answerHttp_eq
    (hbase : baseResponse rules debug r e (w.log (httpRecord r e)) = (.ok base, w'))
    (hown : Legible base.headers) (hheaders : Legible e.headers) :
    answerHttp rules debug r e w =
      (.ok (base.withHeaders (firstOfEach (missing base.headers e.headers))), w') := by
  unfold answerHttp
  rw [hbase]
  dsimp only
  rw [mergeHeaders_eq hheaders hown]

theorem withHeaders_firstOfEach_eq_iff {headers : List (Field × Field)} :
    base.withHeaders (firstOfEach headers) = base.withHeaders headers ↔
      (headers.map nameOf).Nodup := by
  rw [← firstOfEach_eq_self_iff]
  constructor
  · intro h
    have hsame : base.headers ++ firstOfEach headers = base.headers ++ headers :=
      congrArg Response.headers h
    exact List.append_cancel_left hsame
  · intro h
    rw [h]

/-- The response to a fault is the one of the error handler, or the text of the fault, and after its
own headers come those of the fault that it does not have, of the ones under one name the first. So
no name of the fault is lost, and all that the response does not have is added exactly if no two of
these headers have one name. -/
theorem answerHttp_headers
    (hbase : baseResponse rules debug r e (w.log (httpRecord r e)) = (.ok base, w'))
    (hown : Legible base.headers) (hheaders : Legible e.headers) :
    answerHttp rules debug r e w =
      (.ok (base.withHeaders (firstOfEach (missing base.headers e.headers))), w') ∧
      (∀ p ∈ e.headers, nameOf p ∈
        (base.headers ++ firstOfEach (missing base.headers e.headers)).map nameOf) ∧
      ((answerHttp rules debug r e w).1 = .ok (base.withHeaders (missing base.headers e.headers)) ↔
        ((missing base.headers e.headers).map nameOf).Nodup) := by
  have hanswer := answerHttp_eq hbase hown hheaders
  refine ⟨hanswer, ?_, ?_⟩
  · intro p hp
    rw [List.map_append, List.mem_append]
    by_cases hname : nameOf p ∈ base.headers.map nameOf
    · exact .inl hname
    · exact .inr (mem_map_nameOf_firstOfEach _ p (mem_missing.mpr ⟨hp, hname⟩))
  · rw [hanswer, Except.ok.injEq]
    exact withHeaders_firstOfEach_eq_iff

/-- A fault that offers two ways to sign in. -/
def signIn : HttpError where
  status := 401
  detail := "Sign in"
  headers := [("WWW-Authenticate", "Basic"), ("WWW-Authenticate", "Bearer"), ("Vary", "Cookie")]

theorem legible_signIn : Legible signIn.headers where
  named p hp := by
    simp only [signIn, List.mem_cons, List.not_mem_nil, or_false] at hp
    rcases hp with rfl | rfl | rfl <;> exact ⟨_, rfl⟩
  held p hp := by
    simp only [signIn, List.mem_cons, List.not_mem_nil, or_false] at hp
    rcases hp with rfl | rfl | rfl <;> rfl

/-- A page with a header that the fault has too, under a name in small letters. -/
def signInPage : Response :=
  (Response.ofText "Who are you?" 401).withHeader "vary" "Origin"

/-- Answers with this page. -/
def signInRules : ErrorRules Nat :=
  [(.status 401, .plain fun w => (.ok (.response signInPage), w))]

theorem answerHttp_headers_signIn :
    answerHttp signInRules false { method := "GET", path := "/" } signIn newWorld =
      (.ok (signInPage.withHeader "WWW-Authenticate" "Basic"),
        newWorld.log (httpRecord { method := "GET", path := "/" } signIn)) := by
  have hown : Legible signInPage.headers := by
    constructor <;> intro p hp <;> rw [List.mem_singleton.mp hp]
    · exact ⟨_, rfl⟩
    · rfl
  rw [(answerHttp_headers rfl hown legible_signIn).1]
  rfl

/-- Not all headers of a fault that a response does not have are added to it. -/
theorem not_forall_missing_added :
    ¬ ∀ (rules : ErrorRules Nat) (debug : Bool) (r : Request) (e : HttpError) (w : World Nat)
      (base : Response) (w' : World Nat),
        baseResponse rules debug r e (w.log (httpRecord r e)) = (.ok base, w') →
          Legible base.headers → Legible e.headers →
          (answerHttp rules debug r e w).1 =
            .ok (base.withHeaders (missing base.headers e.headers)) := by
  intro h
  have hown : Legible (Response.ofText (detailText false signIn) signIn.status).headers :=
    ⟨fun _ hp => absurd hp List.not_mem_nil, fun _ hp => absurd hp List.not_mem_nil⟩
  have hall :=
    h [] false { method := "GET", path := "/" } signIn newWorld _ _ rfl hown legible_signIn
  rw [answerHttp_eq rfl hown legible_signIn] at hall
  have hnodup := withHeaders_firstOfEach_eq_iff.mp (Except.ok.inj hall)
  exact (List.nodup_cons.mp hnodup).1 List.mem_cons_self

end Waypost.Service
