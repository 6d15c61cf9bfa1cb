/-
# Tables over code points

Character classes and character maps are given as lists in ascending order of code points.  A
search walks such a list from the front and stops as soon as the rows lie beyond the code point
asked for, so characters near the beginning of the code space are settled at once.
-/

namespace ArrowNotation.Text.Table

/-! ## 1. Classes -/

/-- Whether a code point lies in one of the closed ranges of an ascending table. -/
def contains (n : Nat) : List (Nat × Nat) → Bool
  | [] => false
  | (first, last) :: rows =>
    if n < first then false else if n ≤ last then true else contains n rows

/-- Whatever a table contains lies in one of its ranges. -/
theorem exists_row_of_contains {n : Nat} : ∀ {rows : List (Nat × Nat)},
    contains n rows = true → ∃ row ∈ rows, row.1 ≤ n ∧ n ≤ row.2
  | [], h => by simp [contains] at h
  | (first, last) :: rows, h => by
    unfold contains at h
    split at h
    · simp at h
    · split at h
      · exact ⟨(first, last), by simp, by simp; omega⟩
      · obtain ⟨row, hrow, hn⟩ := exists_row_of_contains h
        exact ⟨row, by simp [hrow], hn⟩

/-! ## 2. Maps -/

/-- The value of a code point in an ascending table of rows `(key, value)`. -/
def find? {α : Type} (n : Nat) : List (Nat × α) → Option α
  | [] => none
  | (key, value) :: rows =>
    if n < key then none else if n = key then some value else find? n rows

/-- Whatever a table answers stands in one of its rows. -/
theorem mem_of_find? {α : Type} {n : Nat} {value : α} : ∀ {rows : List (Nat × α)},
    find? n rows = some value → (n, value) ∈ rows
  | [], h => by simp [find?] at h
  | (key, v) :: rows, h => by
    unfold find? at h
    split at h
    · simp at h
    · split at h
      · simp_all
      · simp [mem_of_find? h]

/-- The value of a code point in an ascending table of rows `(first, last, value)`. -/
def findRange? {α : Type} (n : Nat) : List (Nat × Nat × α) → Option α
  | [] => none
  | (first, last, value) :: rows =>
    if n < first then none else if n ≤ last then some value else findRange? n rows

/-- Whatever a table of ranges answers stands in one of its rows. -/
theorem exists_row_of_findRange? {α : Type} {n : Nat} {value : α} :
    ∀ {rows : List (Nat × Nat × α)}, findRange? n rows = some value →
      ∃ row ∈ rows, row.1 ≤ n ∧ n ≤ row.2.1 ∧ row.2.2 = value
  | [], h => by simp [findRange?] at h
  | (first, last, v) :: rows, h => by
    unfold findRange? at h
    split at h
    · simp at h
    · split at h
      · exact ⟨(first, last, v), by simp, by simp_all⟩
      · obtain ⟨row, hrow, hn⟩ := exists_row_of_findRange? h
        exact ⟨row, by simp [hrow], hn⟩

end ArrowNotation.Text.Table
