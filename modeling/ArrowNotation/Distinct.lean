/-
# First occurrences

A list without its repetitions, where the first of several elements with the same key is the one
that stays.  What is kept stands in its old order (`distinctBy_sublist`) and has distinct keys
(`nodup_keys_distinctBy`), and no key is lost (`mem_keys_distinctBy`).
-/

namespace ArrowNotation

variable {α κ : Type} [DecidableEq κ]

/-- The elements whose keys are not in `seen`, each key once, at its first occurrence. -/
def distinctBy (key : α → κ) (seen : List κ) : List α → List α
  | [] => []
  | a :: as =>
    if key a ∈ seen then distinctBy key seen as else a :: distinctBy key (key a :: seen) as

theorem distinctBy_sublist (key : α → κ) : ∀ (seen : List κ) (as : List α),
    (distinctBy key seen as).Sublist as
  | _, [] => by simp [distinctBy]
  | seen, a :: as => by
    unfold distinctBy
    split
    · exact (distinctBy_sublist key seen as).cons a
    · exact (distinctBy_sublist key (key a :: seen) as).cons_cons a

/-- **The keys that are kept are those that occur and have not been seen.** -/
theorem mem_keys_distinctBy {key : α → κ} {k : κ} : ∀ {seen : List κ} {as : List α},
    k ∈ (distinctBy key seen as).map key ↔ k ∈ as.map key ∧ k ∉ seen
  | _, [] => by simp [distinctBy]
  | seen, a :: as => by
    unfold distinctBy
    by_cases ha : key a ∈ seen
    · rw [if_pos ha, mem_keys_distinctBy, List.map_cons, List.mem_cons]
      constructor
      · rintro ⟨hk, hs⟩
        exact ⟨Or.inr hk, hs⟩
      · rintro ⟨rfl | hk, hs⟩
        · exact absurd ha hs
        · exact ⟨hk, hs⟩
    · rw [if_neg ha, List.map_cons, List.mem_cons, mem_keys_distinctBy, List.map_cons,
        List.mem_cons, List.mem_cons]
      constructor
      · rintro (rfl | ⟨hk, hs⟩)
        · exact ⟨Or.inl rfl, ha⟩
        · exact ⟨Or.inr hk, fun h => hs (Or.inr h)⟩
      · rintro ⟨rfl | hk, hs⟩
        · exact Or.inl rfl
        · by_cases hka : k = key a
          · exact Or.inl hka
          · exact Or.inr ⟨hk, fun h => h.elim hka hs⟩

/-- **No key is kept twice.** -/
theorem nodup_keys_distinctBy (key : α → κ) : ∀ (seen : List κ) (as : List α),
    ((distinctBy key seen as).map key).Nodup
  | _, [] => by simp [distinctBy]
  | seen, a :: as => by
    unfold distinctBy
    split
    · exact nodup_keys_distinctBy key seen as
    · rw [List.map_cons, List.nodup_cons]
      refine ⟨fun h => ?_, nodup_keys_distinctBy key (key a :: seen) as⟩
      exact (mem_keys_distinctBy.mp h).2 (by simp)

end ArrowNotation
