/-!
# Keyed lists

A list of pairs read as a mapping that keeps the order in which its keys first came. `put` changes
the value of a key in its place or adds the key at the end; `putNew` leaves a key that is there
alone.
-/

namespace Waypost.Keyed

variable {κ : Type} {α : Type} [DecidableEq κ]

/-- The value of a key. -/
def get? (k : κ) : List (κ × α) → Option α
  | [] => none
  | (k', v) :: rest => if k' = k then some v else get? k rest

/-- Whether a key has a value. -/
def has (k : κ) (m : List (κ × α)) : Bool :=
  (get? k m).isSome

/-- Gives a key a value, in its place if it is there and at the end otherwise. -/
def put (k : κ) (v : α) : List (κ × α) → List (κ × α)
  | [] => [(k, v)]
  | (k', v') :: rest => if k' = k then (k', v) :: rest else (k', v') :: put k v rest

/-- Gives a key a value if it has none. -/
def putNew (k : κ) (v : α) (m : List (κ × α)) : List (κ × α) :=
  if has k m then m else m ++ [(k, v)]

/-- Removes a key. -/
def erase (k : κ) (m : List (κ × α)) : List (κ × α) :=
  m.filter fun p => p.1 ≠ k

/-- The keys in order. -/
def keys (m : List (κ × α)) : List κ :=
  m.map Prod.fst

@[simp] theorem get?_nil (k : κ) : get? k ([] : List (κ × α)) = none := rfl

theorem get?_put_self (k : κ) (v : α) (m : List (κ × α)) : get? k (put k v m) = some v := by
  induction m with
  | nil => simp [put, get?]
  | cons p m ih =>
    by_cases h : p.1 = k
    · simp [put, get?, h]
    · simp [put, get?, h, ih]

theorem get?_put_of_ne {k k' : κ} (h : k' ≠ k) (v : α) (m : List (κ × α)) :
    get? k (put k' v m) = get? k m := by
  induction m with
  | nil => simp [put, get?, h]
  | cons p m ih =>
    obtain ⟨a, b⟩ := p
    by_cases hp : a = k'
    · subst hp
      simp [put, get?, h]
    · simp [put, get?, hp, ih]

theorem get?_erase_self (k : κ) (m : List (κ × α)) : get? k (erase k m) = none := by
  induction m with
  | nil => rfl
  | cons p m ih =>
    by_cases h : p.1 = k
    · simpa [erase, h] using ih
    · simpa [erase, get?, h] using ih

theorem get?_erase_of_ne {k k' : κ} (h : k' ≠ k) (m : List (κ × α)) :
    get? k (erase k' m) = get? k m := by
  induction m with
  | nil => rfl
  | cons p m ih =>
    obtain ⟨a, b⟩ := p
    simp only [erase, ne_eq, decide_not] at ih
    by_cases hp : a = k'
    · subst hp
      simp [erase, get?, h, ih]
    · simp [erase, get?, hp, ih]

end Waypost.Keyed
