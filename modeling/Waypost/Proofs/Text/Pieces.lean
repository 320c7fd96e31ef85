import Mathlib.Data.List.Basic
import Mathlib.Tactic.SplitIfs
import Waypost.Text.Blank
import Waypost.Text.Pieces

/-!
# Laws of cutting texts apart

* `splitChars_joinChars` : pieces without the separator come back as they were joined; `split_join`
  : others come apart;
* `cut?_append`, `of_cut?` : a text is cut at its first separator; `cutLast?_append` : or at its
  last;
* `Bare` : no blank at either end, which is what stripping leaves (`bare_stripChars`) and leaves
  alone (`stripChars_of_bare`).
-/

namespace Waypost.Text

/-! ## Separators -/

section Separators

variable {sep : Char}

theorem splitChars_of_notMem {cs : List Char} (h : sep ∉ cs) : splitChars sep cs = [cs] := by
  induction cs with
  | nil => rfl
  | cons c cs ih =>
    rw [List.mem_cons, not_or] at h
    rw [splitChars, if_neg (Ne.symm h.1), ih h.2]

theorem splitChars_append {p : List Char} (h : sep ∉ p) (cs : List Char) :
    splitChars sep (p ++ sep :: cs) = p :: splitChars sep cs := by
  induction p with
  | nil => rw [List.nil_append, splitChars, if_pos rfl]
  | cons c p ih =>
    rw [List.mem_cons, not_or] at h
    rw [List.cons_append, splitChars, if_neg (Ne.symm h.1), ih h.2]

theorem splitChars_joinChars {ps : List (List Char)} (hne : ps ≠ []) (h : ∀ p ∈ ps, sep ∉ p) :
    splitChars sep (joinChars sep ps) = ps := by
  induction ps with
  | nil => exact absurd rfl hne
  | cons p ps ih =>
    have hp : sep ∉ p := h p List.mem_cons_self
    cases ps with
    | nil => exact splitChars_of_notMem hp
    | cons q ps =>
      rw [joinChars, splitChars_append hp, ih (List.cons_ne_nil q ps) fun r hr =>
        h r (List.mem_cons_of_mem p hr)]

theorem split_of_notMem {s : String} (h : sep ∉ s.toList) : split sep s = [s] := by
  rw [split, splitChars_of_notMem h, List.map_singleton, String.ofList_toList]

/-- The pieces on either side of a separator are those of the two sides. -/
theorem splitChars_append_cons (sep : Char) (p cs : List Char) :
    splitChars sep (p ++ sep :: cs) = splitChars sep p ++ splitChars sep cs := by
  induction p with
  | nil => simp [splitChars]
  | cons c p ih =>
    rw [List.cons_append, splitChars, splitChars, ih]
    split_ifs with hc
    · rfl
    · cases hp : splitChars sep p with
      | nil => exact absurd hp (splitChars_ne_nil sep p)
      | cons q qs => rfl

/-- Joined texts come apart into the pieces of each. -/
theorem split_join {ps : List String} (hne : ps ≠ []) :
    split sep (join sep ps) = ps.flatMap (split sep) := by
  induction ps with
  | nil => exact absurd rfl hne
  | cons p ps ih =>
    cases ps with
    | nil => simp [join, joinChars]
    | cons q ps =>
      have hjoin : (join sep (p :: q :: ps)).toList =
          p.toList ++ sep :: (join sep (q :: ps)).toList := by
        simp [join, joinChars]
      rw [split, hjoin, splitChars_append_cons, List.map_append, List.flatMap_cons,
        ← ih (List.cons_ne_nil q ps)]
      rfl

theorem split_join_of_notMem {ps : List String} (hne : ps ≠ []) (h : ∀ p ∈ ps, sep ∉ p.toList) :
    split sep (join sep ps) = ps := by
  have hpieces : ∀ {qs : List String}, (∀ q ∈ qs, sep ∉ q.toList) →
      qs.flatMap (split sep) = qs := by
    intro qs hqs
    induction qs with
    | nil => rfl
    | cons q qs ih =>
      obtain ⟨hq, hrest⟩ := List.forall_mem_cons.mp hqs
      rw [List.flatMap_cons, split_of_notMem hq, ih hrest, List.singleton_append]
  rw [split_join hne, hpieces h]

theorem notMem_of_mem_splitChars {p cs : List Char} (h : p ∈ splitChars sep cs) : sep ∉ p := by
  induction cs generalizing p with
  | nil =>
    rw [List.mem_singleton.mp h]
    exact List.not_mem_nil
  | cons c cs ih =>
    rw [splitChars] at h
    split_ifs at h with hc
    · rcases List.mem_cons.mp h with rfl | h
      · exact List.not_mem_nil
      · exact ih h
    · split at h
      · next hnil => exact absurd hnil (splitChars_ne_nil sep cs)
      · next q qs hpieces =>
        rcases List.mem_cons.mp h with rfl | h
        · rw [List.mem_cons, not_or]
          exact ⟨Ne.symm hc, ih (hpieces ▸ List.mem_cons_self)⟩
        · exact ih (hpieces ▸ List.mem_cons_of_mem q h)

theorem cutChars?_append {a : List Char} (h : sep ∉ a) (b : List Char) :
    cutChars? sep (a ++ sep :: b) = some (a, b) := by
  induction a with
  | nil => rw [List.nil_append, cutChars?, if_pos rfl]
  | cons c a ih =>
    rw [List.mem_cons, not_or] at h
    rw [List.cons_append, cutChars?, if_neg (Ne.symm h.1), ih h.2]
    rfl

theorem of_cutChars? {cs a b : List Char} (h : cutChars? sep cs = some (a, b)) :
    cs = a ++ sep :: b ∧ sep ∉ a := by
  induction cs generalizing a with
  | nil => cases h
  | cons c cs ih =>
    rw [cutChars?] at h
    split_ifs at h with hc
    · obtain ⟨rfl, rfl⟩ := Prod.mk.inj (Option.some.inj h)
      exact ⟨by rw [hc, List.nil_append], List.not_mem_nil⟩
    · obtain ⟨⟨a', b'⟩, hcut, hpair⟩ := Option.map_eq_some_iff.mp h
      obtain ⟨rfl, rfl⟩ := Prod.mk.inj hpair
      obtain ⟨rfl, hmem⟩ := ih hcut
      exact ⟨rfl, by rw [List.mem_cons, not_or]; exact ⟨Ne.symm hc, hmem⟩⟩

theorem of_cut? {s a b : String} (h : cut? sep s = some (a, b)) :
    s.toList = a.toList ++ sep :: b.toList ∧ sep ∉ a.toList := by
  obtain ⟨⟨as, bs⟩, hcut, hpair⟩ := Option.map_eq_some_iff.mp h
  obtain ⟨rfl, rfl⟩ := Prod.mk.inj hpair
  rw [String.toList_ofList, String.toList_ofList]
  exact of_cutChars? hcut

theorem cut?_append {a : String} (h : sep ∉ a.toList) (b : String) :
    cut? sep (a ++ String.singleton sep ++ b) = some (a, b) := by
  have hchars : (a ++ String.singleton sep ++ b).toList = a.toList ++ sep :: b.toList := by simp
  rw [cut?, hchars, cutChars?_append h, Option.map_some, String.ofList_toList, String.ofList_toList]

theorem cutLast?_append (a : String) {b : String} (h : sep ∉ b.toList) :
    cutLast? sep (a ++ String.singleton sep ++ b) = some (a, b) := by
  have hchars : (a ++ String.singleton sep ++ b).toList.reverse =
      b.toList.reverse ++ sep :: a.toList.reverse := by simp
  have hmem : sep ∉ b.toList.reverse := fun hmem => h (List.mem_reverse.mp hmem)
  rw [cutLast?, hchars, cutChars?_append hmem, Option.map_some, List.reverse_reverse,
    List.reverse_reverse, String.ofList_toList, String.ofList_toList]

end Separators

/-! ## Blanks -/

/-- No blank stands at either end. -/
structure Bare (cs : List Char) : Prop where
  front : ∀ c, cs.head? = some c → isBlank c = false
  back : ∀ c, cs.getLast? = some c → isBlank c = false

theorem bare_of_forall {cs : List Char} (h : ∀ c ∈ cs, isBlank c = false) : Bare cs :=
  ⟨fun c hc => h c (List.mem_of_head? hc), fun c hc => h c (List.mem_of_getLast? hc)⟩

theorem dropWhile_of_front {cs : List Char} (h : ∀ c, cs.head? = some c → isBlank c = false) :
    cs.dropWhile isBlank = cs := by
  cases cs with
  | nil => rfl
  | cons c cs => rw [List.dropWhile_cons_of_neg (by rw [h c rfl]; exact Bool.false_ne_true)]

theorem front_dropWhile (cs : List Char) :
    ∀ c, (cs.dropWhile isBlank).head? = some c → isBlank c = false := by
  intro c hc
  have h := List.head?_dropWhile_not isBlank cs
  rw [hc] at h
  exact h

theorem stripChars_of_bare {cs : List Char} (h : Bare cs) : stripChars cs = cs := by
  have hback : cs.reverse.dropWhile isBlank = cs.reverse := by
    refine dropWhile_of_front fun c hc => h.back c ?_
    rw [List.getLast?_eq_head?_reverse]
    exact hc
  rw [stripChars, stripLeft, dropWhile_of_front h.front, stripRight, hback, List.reverse_reverse]

/-- What is stripped begins and ends with no blank. -/
theorem bare_stripChars (cs : List Char) : Bare (stripChars cs) := by
  generalize hleft : stripLeft cs = left
  have hfront : ∀ c, left.head? = some c → isBlank c = false := by
    rw [← hleft]
    exact front_dropWhile cs
  rw [stripChars, hleft, stripRight]
  refine ⟨fun c hc => hfront c ?_, fun c hc => front_dropWhile left.reverse c ?_⟩
  · -- What is left when the end is dropped is where the text begins.
    have hprefix : (left.reverse.dropWhile isBlank).reverse <+: left := by
      rw [← List.reverse_suffix, List.reverse_reverse]
      exact List.dropWhile_suffix isBlank
    obtain ⟨rest, hrest⟩ := hprefix
    rw [← hrest, List.head?_append, hc]
    rfl
  · rw [List.getLast?_reverse] at hc
    exact hc

theorem toList_strip (s : String) : (strip s).toList = stripChars s.toList := by
  rw [strip, String.toList_ofList]

theorem strip_eq_self_iff {s : String} : strip s = s ↔ Bare s.toList := by
  rw [strip]
  constructor
  · intro h
    rw [← h, String.toList_ofList]
    exact bare_stripChars s.toList
  · intro h
    rw [stripChars_of_bare h, String.ofList_toList]

theorem stripChars_blank_cons {c : Char} (h : isBlank c = true) (cs : List Char) :
    stripChars (c :: cs) = stripChars cs := by
  rw [stripChars, stripLeft, List.dropWhile_cons_of_pos h]
  rfl

theorem mem_of_mem_stripChars {c : Char} {cs : List Char} (h : c ∈ stripChars cs) : c ∈ cs := by
  rw [stripChars, stripRight, List.mem_reverse] at h
  exact (List.dropWhile_sublist isBlank).mem
    (List.mem_reverse.mp ((List.dropWhile_sublist isBlank).mem h))

theorem Bare.append_cons {a b : List Char} {c : Char} (ha : Bare a) (hc : isBlank c = false)
    (hb : Bare b) : Bare (a ++ c :: b) := by
  refine ⟨fun d hd => ?_, fun d hd => ?_⟩
  · cases a with
    | nil =>
      rw [← Option.some.inj hd]
      exact hc
    | cons e a => exact ha.front d hd
  · rw [List.getLast?_append_cons] at hd
    cases b with
    | nil =>
      rw [← Option.some.inj hd]
      exact hc
    | cons e b =>
      rw [List.getLast?_cons_cons] at hd
      exact hb.back d hd

end Waypost.Text
