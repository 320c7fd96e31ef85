/-!
# Code points

A code point is the number of a character. There are numbers of no character too, the halves of a
pair of units, and a name in ASCII can spell them; so the classes of characters are sets of numbers.
A class is given by closed ranges of code points in increasing order; `within` is membership.
-/

namespace Waypost.Text

/-- The number of a character, or of a half of a pair of units. -/
abbrev CodePoint := Nat

/-- The largest code point. -/
def maxCodePoint : CodePoint := 0x10FFFF

/-- Whether `n` lies in one of the closed ranges `rs`. -/
def within (rs : List (Nat × Nat)) (n : Nat) : Bool :=
  rs.any fun r => r.1 ≤ n && n ≤ r.2

theorem within_iff {rs : List (Nat × Nat)} {n : Nat} :
    within rs n = true ↔ ∃ r ∈ rs, r.1 ≤ n ∧ n ≤ r.2 := by
  simp [within]

end Waypost.Text
