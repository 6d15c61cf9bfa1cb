/-
# Keyed lists

Values under keys, in the order in which the keys came in.  A value that is changed keeps its
place, and a new key goes to the end (`map_fst_update`); what lies under the other keys does not
change (`find?_update`).
-/

namespace ArrowNotation.Keyed

variable {κ α : Type} [DecidableEq κ]

/-- The value under a key, if the key is there. -/
def find? (key : κ) (entries : List (κ × α)) : Option α :=
  (entries.find? fun entry => entry.1 = key).map Prod.snd

/-- Entries with a new value under a key, made from the old value if there is one. -/
def update (key : κ) (f : Option α → α) : List (κ × α) → List (κ × α)
  | [] => [(key, f none)]
  | (other, value) :: entries =>
    if other = key then (other, f (some value)) :: entries
    else (other, value) :: update key f entries

@[simp] theorem find?_nil (key : κ) : find? key ([] : List (κ × α)) = none := rfl

theorem find?_cons_self (key : κ) (value : α) (entries : List (κ × α)) :
    find? key ((key, value) :: entries) = some value := by simp [find?]

theorem find?_cons_of_ne {key other : κ} (h : other ≠ key) (value : α) (entries : List (κ × α)) :
    find? key ((other, value) :: entries) = find? key entries := by simp [find?, h]

/-- **Only the value under the key changes.** -/
theorem find?_update (key k : κ) (f : Option α → α) : ∀ entries : List (κ × α),
    find? k (update key f entries)
      = if key = k then some (f (find? key entries)) else find? k entries
  | [] => by
    by_cases h : key = k
    · subst h
      simp [update, find?]
    · simp [update, find?_cons_of_ne h, h]
  | (other, value) :: entries => by
    have ih := find?_update key k f entries
    unfold update
    by_cases ho : other = key
    · subst ho
      rw [if_pos rfl, find?_cons_self]
      by_cases hk : other = k
      · subst hk
        rw [if_pos rfl, find?_cons_self]
      · rw [if_neg hk, find?_cons_of_ne hk, find?_cons_of_ne hk]
    · rw [if_neg ho, find?_cons_of_ne ho]
      by_cases hk : other = k
      · subst hk
        rw [find?_cons_self, find?_cons_self, if_neg (Ne.symm ho)]
      · rw [find?_cons_of_ne hk, find?_cons_of_ne hk, ih]

/-- **A new key goes to the end, and the other keys keep their places.** -/
theorem map_fst_update (key : κ) (f : Option α → α) : ∀ entries : List (κ × α),
    (update key f entries).map Prod.fst =
      if key ∈ entries.map Prod.fst then entries.map Prod.fst
      else entries.map Prod.fst ++ [key]
  | [] => by simp [update]
  | (other, value) :: entries => by
    unfold update
    by_cases h : other = key
    · simp [h]
    · rw [if_neg h, List.map_cons, map_fst_update key f entries]
      by_cases hm : key ∈ entries.map Prod.fst
      · simp [hm]
      · simp [hm, Ne.symm h]

end ArrowNotation.Keyed
