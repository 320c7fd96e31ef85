/-!
# Cutting texts apart and joining them

`split` cuts a text at every separator, `cut?` at the first one and `cutLast?` at the last one.
`join` is the way back: `join_split` says that a text is the join of its pieces.
-/

namespace Waypost.Text

/-- The pieces between separators, at least one. -/
def splitChars (sep : Char) : List Char → List (List Char)
  | [] => [[]]
  | c :: cs =>
    if c = sep then [] :: splitChars sep cs
    else
      match splitChars sep cs with
      | [] => [[c]]
      | p :: ps => (c :: p) :: ps

/-- The pieces put together with a separator between neighbours. -/
def joinChars (sep : Char) : List (List Char) → List Char
  | [] => []
  | [p] => p
  | p :: q :: ps => p ++ sep :: joinChars sep (q :: ps)

/-- What stands before and after the first separator. -/
def cutChars? (sep : Char) : List Char → Option (List Char × List Char)
  | [] => none
  | c :: cs =>
    if c = sep then some ([], cs)
    else (cutChars? sep cs).map fun r => (c :: r.1, r.2)

/-- The pieces of a text between separators, at least one. -/
def split (sep : Char) (s : String) : List String :=
  (splitChars sep s.toList).map String.ofList

/-- The pieces put together with a separator between neighbours. -/
def join (sep : Char) (ps : List String) : String :=
  String.ofList (joinChars sep (ps.map String.toList))

/-- What stands before and after the first separator of a text. -/
def cut? (sep : Char) (s : String) : Option (String × String) :=
  (cutChars? sep s.toList).map fun r => (String.ofList r.1, String.ofList r.2)

/-- What stands before and after the last separator of a text. -/
def cutLast? (sep : Char) (s : String) : Option (String × String) :=
  (cutChars? sep s.toList.reverse).map fun r =>
    (String.ofList r.2.reverse, String.ofList r.1.reverse)

theorem splitChars_ne_nil (sep : Char) (cs : List Char) : splitChars sep cs ≠ [] := by
  cases cs with
  | nil => simp [splitChars]
  | cons c cs =>
    rw [splitChars]
    split
    · simp
    · split <;> simp

theorem joinChars_cons_cons (sep c : Char) (p : List Char) (ps : List (List Char)) :
    joinChars sep ((c :: p) :: ps) = c :: joinChars sep (p :: ps) := by
  cases ps <;> simp [joinChars]

theorem joinChars_nil_cons (sep : Char) {ps : List (List Char)} (h : ps ≠ []) :
    joinChars sep ([] :: ps) = sep :: joinChars sep ps := by
  cases ps with
  | nil => exact absurd rfl h
  | cons p ps => simp [joinChars]

/-- Joining the pieces of a text gives the text back. -/
theorem joinChars_splitChars (sep : Char) (cs : List Char) :
    joinChars sep (splitChars sep cs) = cs := by
  induction cs with
  | nil => rfl
  | cons c cs ih =>
    rw [splitChars]
    split
    · next h => rw [joinChars_nil_cons sep (splitChars_ne_nil sep cs), ih, h]
    · split
      · next h => exact absurd h (splitChars_ne_nil sep cs)
      · next p ps h => rw [joinChars_cons_cons, ← h, ih]

/-- Joining the pieces of a text gives the text back. -/
theorem join_split (sep : Char) (s : String) : join sep (split sep s) = s := by
  simp [join, split, List.map_map, Function.comp_def, joinChars_splitChars]

end Waypost.Text
