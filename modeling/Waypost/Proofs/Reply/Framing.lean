import Mathlib.Tactic.SplitIfs
import Waypost.Proofs.Codec.Ascii
import Waypost.Proofs.Number.Integer
import Waypost.Proofs.Text.Case
import Waypost.Reply.Frame

/-!
# How a response is framed

The type and the length of the body are headers beside those that a response has of its own, and
nothing keeps the two apart.

* `Response.values` : what stands under a name in the headers that are sent, in order;
  `valuesOf_sentHeaders` : a client finds these, in whatever case the response has its names;
* `frames_eq_ok_iff` : the two frames, and how those for `HEAD` differ;
* `Framed` : one type and one length, which is that of the body;
* `frames_values` : a response is framed exactly if none of its own headers has one of the two
  names.
-/

namespace Waypost

open Codec Number Text

/-! ## Values under a name -/

namespace Headers

variable {folded : Bytes}

theorem valuesOf_cons (p : Bytes × Bytes) (hs : List (Bytes × Bytes)) :
    (⟨p :: hs⟩ : Headers).valuesOf folded =
      (if foldName p.1 = folded then [decodeLatin1 p.2] else []) ++ (⟨hs⟩ : Headers).valuesOf
        folded := by
  simp only [valuesOf, List.filter_cons, decide_eq_true_eq]
  split_ifs <;> rfl

theorem valuesOf_append (hs hs' : List (Bytes × Bytes)) :
    (⟨hs ++ hs'⟩ : Headers).valuesOf folded =
      (⟨hs⟩ : Headers).valuesOf folded ++ (⟨hs'⟩ : Headers).valuesOf folded := by
  unfold valuesOf
  rw [List.filter_append, List.map_append]

end Headers

theorem Text.IsSmall.encode {s : String} (h : IsSmall s) :
    Codec.encode .latin1 s = .ok (encodeUtf8 s) :=
  encode_ascii .latin1 fun c hc => (h c hc).1

section

variable {name : String} (hname : IsSmall name)
include hname

/-- A name in small letters is found under itself only. -/
theorem foldName_eq_iff {s : String} {bs : Bytes} (hsmall : ∀ c ∈ s.toList, ¬ IsCapital c)
    (h : encode .latin1 s = .ok bs) :
    Headers.foldName bs = encodeUtf8 name ↔ s = name := by
  have hfold : Headers.foldName bs = bs := by
    obtain ⟨hsize, rfl⟩ := encode_eq_ok h
    exact foldName_map_ofNat fun c hc => ⟨hsize c hc, hsmall c hc⟩
  rw [hfold]
  constructor
  · rintro rfl
    exact (decodeLatin1_of_encode h).symm.trans (decodeLatin1_encodeUtf8 fun c hc => (hname c hc).1)
  · rintro rfl
    exact Except.ok.inj (h.symm.trans hname.encode)

theorem valuesOf_small_cons {s t : String} {n v : Bytes} (hsmall : ∀ c ∈ s.toList, ¬ IsCapital c)
    (hn : encode .latin1 s = .ok n) (hv : encode .latin1 t = .ok v) (hs : List (Bytes × Bytes)) :
    (⟨(n, v) :: hs⟩ : Headers).valuesOf (encodeUtf8 name) =
      (if s = name then [t] else []) ++ (⟨hs⟩ : Headers).valuesOf (encodeUtf8 name) := by
  rw [Headers.valuesOf_cons]
  simp only [foldName_eq_iff hname hsmall hn, decodeLatin1_of_encode hv]

/-- The same for a name that is given in small letters. -/
theorem valuesOf_given_cons {s t : String} {v : Bytes} (hs : IsSmall s)
    (hv : encode .latin1 t = .ok v) (rest : List (Bytes × Bytes)) :
    (⟨(encodeUtf8 s, v) :: rest⟩ : Headers).valuesOf (encodeUtf8 name) =
      (if s = name then [t] else []) ++ (⟨rest⟩ : Headers).valuesOf (encodeUtf8 name) :=
  valuesOf_small_cons hname (fun c hc => (hs c hc).2) hs.encode hv rest

end

/-! ## Headers that are sent -/

theorem sendText_eq_ok {s : String} {bs : Bytes} (h : sendText s = .ok bs) :
    encode .latin1 s = .ok bs := by
  unfold sendText at h
  split at h
  · cases h
  · rename_i hencode
    rw [hencode, Except.ok.inj h]

namespace Field

theorem send_eq_ok {f : Field} {bs : Bytes} (h : f.send = .ok bs) :
    ∃ s, f = .text s ∧ encode .latin1 s = .ok bs := by
  cases f with
  | text s => exact ⟨s, rfl, sendText_eq_ok h⟩
  | bytes _ => cases h
  | foreign _ => cases h

theorem sendName_eq_ok {f : Field} {bs : Bytes} (h : f.sendName = .ok bs) :
    ∃ s, f = .text s ∧ encode .latin1 (lower s) = .ok bs := by
  cases f with
  | text s => exact ⟨s, rfl, sendText_eq_ok h⟩
  | bytes _ => cases h
  | foreign _ => cases h

/-- The value of a header that has a name, in whatever case. -/
def valueUnder? (name : String) : Field × Field → Option String
  | (.text n, .text v) => if lower n = name then some v else none
  | _ => none

end Field

theorem sendFields_cons {p : Field × Field} {rest : List (Field × Field)}
    {hs : List (Bytes × Bytes)} (h : sendFields (p :: rest) = .ok hs) :
    ∃ s t n v hs', p = (.text s, .text t) ∧ encode .latin1 (lower s) = .ok n ∧
      encode .latin1 t = .ok v ∧ sendFields rest = .ok hs' ∧ hs = (n, v) :: hs' := by
  obtain ⟨name, value⟩ := p
  unfold sendFields at h
  split at h
  · cases h
  rename_i n hn
  split at h
  · cases h
  rename_i v hv
  split at h
  · cases h
  rename_i hs' hrest
  obtain ⟨s, rfl, hs⟩ := Field.sendName_eq_ok hn
  obtain ⟨t, rfl, ht⟩ := Field.send_eq_ok hv
  exact ⟨s, t, n, v, hs', rfl, hs, ht, hrest, (Except.ok.inj h).symm⟩

theorem valuesOf_sendFields {name : String} (hname : IsSmall name) {fields : List (Field × Field)}
    {hs : List (Bytes × Bytes)} (h : sendFields fields = .ok hs) :
    (⟨hs⟩ : Headers).valuesOf (encodeUtf8 name) = fields.filterMap (Field.valueUnder? name) := by
  induction fields generalizing hs with
  | nil =>
    rw [← Except.ok.inj h]
    rfl
  | cons p rest ih =>
    obtain ⟨s, t, n, v, hs', rfl, hn, hv, hrest, rfl⟩ := sendFields_cons h
    rw [valuesOf_small_cons hname (not_isCapital_lower s) hn hv, ih hrest, List.filterMap_cons,
      Field.valueUnder?]
    split_ifs <;> rfl

/-- A sent header is under a name exactly if its own is that one in small letters. -/
theorem filterMap_valueUnder?_eq_nil_iff {name : String} {fields : List (Field × Field)}
    {hs : List (Bytes × Bytes)} (h : sendFields fields = .ok hs) :
    fields.filterMap (Field.valueUnder? name) = [] ↔
      ∀ p ∈ fields, p.1.lowered ≠ .ok (.text name) := by
  induction fields generalizing hs with
  | nil => exact ⟨fun _ => nofun, fun _ => rfl⟩
  | cons p rest ih =>
    obtain ⟨s, t, n, v, hs', rfl, -, -, hrest, rfl⟩ := sendFields_cons h
    -- Only a text has been sent, so its name can be compared.
    have hlowered : (Field.text s).lowered ≠ .ok (.text name) ↔ lower s ≠ name := by
      simp [Field.lowered]
    rw [List.forall_mem_cons, hlowered, ← ih hrest, List.filterMap_cons, Field.valueUnder?]
    by_cases hs : lower s = name
    · simp [hs]
    · simp [hs]

theorem valuesOf_sendCookies {name : String} (hname : IsSmall name) {cookies : List SetCookie}
    {hs : List (Bytes × Bytes)} (h : sendCookies cookies = .ok hs) :
    (⟨hs⟩ : Headers).valuesOf (encodeUtf8 name) =
      if "set-cookie" = name then cookies.map SetCookie.headerText else [] := by
  induction cookies generalizing hs with
  | nil =>
    rw [← Except.ok.inj h]
    split_ifs <;> rfl
  | cons c rest ih =>
    unfold sendCookies at h
    split at h
    · cases h
    rename_i v hv
    split at h
    · cases h
    rename_i hs' hrest
    rw [← Except.ok.inj h, valuesOf_given_cons hname (by decide) (sendText_eq_ok hv), ih hrest]
    split_ifs <;> rfl

namespace Response

variable {r : Response} {head : Bool} {fs : List Frame}

/-- The values of the response's own headers under a name. -/
def ownValues (r : Response) (name : String) : List String :=
  r.headers.filterMap (Field.valueUnder? name)

/-- What stands under a name among the headers that are sent. -/
def values (r : Response) (name : String) : List String :=
  (if "content-type" = name then [r.contentType] else []) ++ r.ownValues name
    ++ (if "set-cookie" = name then r.cookies.map SetCookie.headerText else [])
    ++ (if "content-length" = name then [toString r.sentBody.length] else [])

theorem sentHeaders_eq_ok {hs : List (Bytes × Bytes)} (h : r.sentHeaders = .ok hs) :
    ∃ contentType own cookies, encode .latin1 r.contentType = .ok contentType ∧
      sendFields r.headers = .ok own ∧ sendCookies r.cookies = .ok cookies ∧
      hs = [(encodeUtf8 "content-type", contentType)] ++ own ++ cookies
        ++ [(encodeUtf8 "content-length", encodeUtf8 (toString r.sentBody.length))] := by
  unfold sentHeaders at h
  split at h
  · cases h
  rename_i contentType htype
  split at h
  · cases h
  rename_i own hown
  split at h
  · cases h
  rename_i cookies hcookies
  exact ⟨contentType, own, cookies, sendText_eq_ok htype, hown, hcookies, (Except.ok.inj h).symm⟩

/-- The values that a client finds under a name in the headers that are sent. -/
theorem valuesOf_sentHeaders {name : String} (hname : IsSmall name) {hs : List (Bytes × Bytes)}
    (h : r.sentHeaders = .ok hs) : (⟨hs⟩ : Headers).valuesOf (encodeUtf8 name) = r.values name := by
  have hlength : ∀ c ∈ (toString r.sentBody.length).toList, c.toNat < 128 := by
    intro c hc
    rw [Nat.toString_eq_repr, Nat.toList_repr] at hc
    exact Nat.lt_of_le_of_lt (toNat_of_isDigit (isDigit_of_mem_toDigits c hc)).2 (by decide)
  obtain ⟨contentType, own, cookies, htype, hown, hcookies, rfl⟩ := sentHeaders_eq_ok h
  rw [Headers.valuesOf_append, Headers.valuesOf_append, Headers.valuesOf_append,
    valuesOf_given_cons hname (by decide) htype, valuesOf_sendFields hname hown,
    valuesOf_sendCookies hname hcookies,
    valuesOf_given_cons hname (by decide) (encode_ascii .latin1 hlength)]
  simp only [values, ownValues, Headers.valuesOf, List.filter_nil, List.map_nil, List.append_nil]

/-! ## Frames -/

theorem frames_eq_ok_iff :
    r.frames head = .ok fs ↔
      ∃ hs, r.sentHeaders = .ok hs ∧
        fs = [.start r.status hs, .body (if head then [] else r.sentBody)] := by
  unfold frames
  cases r.sentHeaders with
  | error e => exact ⟨nofun, nofun⟩
  | ok hs =>
    dsimp only
    constructor
    · rintro ⟨⟩
      exact ⟨hs, rfl, rfl⟩
    · rintro ⟨hs', heq, rfl⟩
      rw [Except.ok.inj heq]

/-- One type and one length, which is that of the body. -/
structure Framed (headers : List (Bytes × Bytes)) (body : Bytes) : Prop where
  type : ∃ t, (⟨headers⟩ : Headers).valuesOf (encodeUtf8 "content-type") = [t]
  length : (⟨headers⟩ : Headers).valuesOf (encodeUtf8 "content-length") = [toString body.length]

/-- Whatever a response has of its own, the type and the length stand beside it. A response is
framed exactly if it has no header with one of these names. -/
theorem frames_values (h : r.frames head = .ok fs) :
    ∃ headers body, fs = [.start r.status headers, .body (if head then [] else body)] ∧
      r.frames false = .ok [.start r.status headers, .body body] ∧
      (⟨headers⟩ : Headers).valuesOf (encodeUtf8 "content-type") =
        r.contentType :: r.ownValues "content-type" ∧
      (⟨headers⟩ : Headers).valuesOf (encodeUtf8 "content-length") =
        r.ownValues "content-length" ++ [toString body.length] ∧
      (Framed headers body ↔
        ∀ p ∈ r.headers, p.1.lowered ≠ .ok (.text "content-type") ∧
          p.1.lowered ≠ .ok (.text "content-length")) := by
  obtain ⟨hs, hsent, rfl⟩ := frames_eq_ok_iff.mp h
  obtain ⟨-, own, -, -, hown, -⟩ := sentHeaders_eq_ok hsent
  have htype : (⟨hs⟩ : Headers).valuesOf (encodeUtf8 "content-type") =
      r.contentType :: r.ownValues "content-type" := by
    rw [valuesOf_sentHeaders (by decide) hsent]
    simp [values]
  have hlength : (⟨hs⟩ : Headers).valuesOf (encodeUtf8 "content-length") =
      r.ownValues "content-length" ++ [toString r.sentBody.length] := by
    rw [valuesOf_sentHeaders (by decide) hsent]
    simp [values]
  refine ⟨hs, r.sentBody, rfl, frames_eq_ok_iff.mpr ⟨hs, hsent, rfl⟩, htype, hlength, ?_⟩
  have hframed : Framed hs r.sentBody ↔ r.ownValues "content-type" = [] ∧
      r.ownValues "content-length" = [] := by
    constructor
    · rintro ⟨⟨t, ht⟩, hl⟩
      rw [htype] at ht
      rw [hlength] at hl
      exact ⟨(List.cons.inj ht).2, List.append_left_eq_self.mp hl⟩
    · rintro ⟨ht, hl⟩
      exact ⟨⟨r.contentType, by rw [htype, ht]⟩, by rw [hlength, hl, List.nil_append]⟩
  rw [hframed, ownValues, ownValues, filterMap_valueUnder?_eq_nil_iff hown,
    filterMap_valueUnder?_eq_nil_iff hown]
  exact ⟨fun h p hp => ⟨h.1 p hp, h.2 p hp⟩, fun h =>
    ⟨fun p hp => (h p hp).1, fun p hp => (h p hp).2⟩⟩

/-- A note of two bytes that says it has five. -/
def boastfulNote : Response :=
  (ofText "hi").withHeader "Content-Length" "5"

theorem frames_values_boastful :
    ∃ headers body, boastfulNote.frames true = .ok [.start 200 headers, .body []] ∧
      boastfulNote.frames false = .ok [.start 200 headers, .body body] ∧
      (⟨headers⟩ : Headers).valuesOf (encodeUtf8 "content-type") = ["text/plain; charset=utf-8"] ∧
      (⟨headers⟩ : Headers).valuesOf (encodeUtf8 "content-length") =
        ["5", toString body.length] := by
  have hsent : ∃ fs, boastfulNote.frames true = .ok fs := ⟨_, rfl⟩
  obtain ⟨fs, hfs⟩ := hsent
  obtain ⟨headers, body, rfl, hfalse, htype, hlength, -⟩ := frames_values hfs
  exact ⟨headers, body, hfs, hfalse, htype, hlength⟩

/-- A response can be sent with two lengths. -/
theorem not_forall_frames_framed :
    ¬ ∀ (r : Response) (head : Bool) (fs : List Frame), r.frames head = .ok fs →
      ∃ headers body, fs = [.start r.status headers, .body (if head then [] else body)] ∧
        r.frames false = .ok [.start r.status headers, .body body] ∧ Framed headers body := by
  intro h
  have hsent : ∃ fs, boastfulNote.frames false = .ok fs := ⟨_, rfl⟩
  obtain ⟨fs, hfs⟩ := hsent
  obtain ⟨headers, body, rfl, -, hframed⟩ := h boastfulNote false fs hfs
  obtain ⟨hs, hheaders, heq⟩ := frames_eq_ok_iff.mp hfs
  cases heq
  have hlengths : (boastfulNote.values "content-length").length = 1 := by
    rw [← valuesOf_sentHeaders (by decide) hheaders, hframed.length]
    rfl
  exact absurd hlengths (by decide)

end Response

end Waypost
