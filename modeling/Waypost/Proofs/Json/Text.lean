import Waypost.Json.Printer
import Waypost.Json.Reader

/-!
# Plain texts as JSON

A text in which nothing is escaped stands between quotes as it is, and is read back as it was.
-/

namespace Waypost.Json

/-- A character that stands for itself inside a string. -/
structure Plain (c : Char) : Prop where
  quote : c ≠ '"'
  backslash : c ≠ '\\'
  printable : 32 ≤ c.toNat

theorem escapeChar_plain {c : Char} (h : Plain c) : escapeChar false c = [c] := by
  have hcontrol : ∀ d : Char, d.toNat < 32 → c ≠ d := by
    rintro d hd rfl
    exact absurd h.printable (Nat.not_le_of_lt hd)
  have hbelow : ∀ n < 32, c.toNat ≠ n := by
    rintro n hn rfl
    exact absurd h.printable (Nat.not_le_of_lt hn)
  unfold escapeChar
  rw [if_neg h.quote, if_neg h.backslash, if_neg (hcontrol '\n' (by decide)),
    if_neg (hcontrol '\r' (by decide)), if_neg (hcontrol '\t' (by decide)),
    if_neg (hbelow 8 (by decide)), if_neg (hbelow 12 (by decide)), if_neg]
  simpa using h.printable

theorem render_plain {s : String} (h : ∀ c ∈ s.toList, Plain c) :
    (Json.text s).render .compact = String.ofList ('"' :: s.toList ++ ['"']) := by
  have hbody : s.toList.flatMap (escapeChar false) = s.toList := by
    revert h
    induction s.toList with
    | nil => intro h; rfl
    | cons c cs ih =>
      intro h
      rw [List.flatMap_cons, escapeChar_plain (h c List.mem_cons_self),
        ih fun d hd => h d (List.mem_cons_of_mem c hd)]
      rfl
  rw [render, quoteText, show Style.compact.asciiOnly = false from rfl, hbody]

theorem readString_plain (start pos : Nat) (acc : List Char) {cs : List Char}
    (h : ∀ c ∈ cs, Plain c) (rest : List Char) :
    readString start pos 0 acc (cs ++ '"' :: rest) =
      .ok (String.ofList (acc.reverse ++ cs), ⟨pos + cs.length + 1, rest⟩) := by
  induction cs generalizing pos acc with
  | nil =>
    rw [List.nil_append, readString.eq_def]
    dsimp only
    rw [if_pos rfl, List.append_nil]
    rfl
  | cons c cs ih =>
    have hc : Plain c := h c List.mem_cons_self
    rw [List.cons_append, readString.eq_def]
    dsimp only
    rw [if_neg hc.quote, if_neg hc.backslash, if_neg (Nat.not_lt_of_le hc.printable),
      ih (pos + 1) (c :: acc) fun d hd => h d (List.mem_cons_of_mem c hd), List.reverse_cons,
        List.append_assoc,
      List.singleton_append, List.length_cons, Nat.add_assoc pos 1, Nat.add_comm 1]

theorem readValue_text (fuel depth pos : Nat) {cs : List Char} (h : ∀ c ∈ cs, Plain c)
    (rest : List Char) :
    readValue (fuel + 1) depth ⟨pos, '"' :: (cs ++ '"' :: rest)⟩ =
      .ok (.text (String.ofList cs), ⟨pos + 1 + cs.length + 1, rest⟩) := by
  rw [readValue.eq_def]
  simp only [readString_plain pos (pos + 1) [] h rest]
  rfl

/-- What is written of a plain text is read back. -/
theorem read_render_plain {s : String} (h : ∀ c ∈ s.toList, Plain c) :
    read ((Json.text s).render .compact) = .ok (.text s) := by
  have hstart : Cursor.skipSpace ⟨0, '"' :: (s.toList ++ ['"'])⟩ =
      ⟨0, '"' :: (s.toList ++ ['"'])⟩ := rfl
  rw [render_plain h, read, String.toList_ofList, List.cons_append]
  dsimp only
  rw [if_neg (by decide), readChars, hstart, readValue_text _ _ _ h, String.ofList_toList]
  rfl

end Waypost.Json
