/-
# Laws of keyed lists

What can be said of a keyed list in which no key stands twice.

* **Distinct keys.**  What is found does not depend on the order (`find?_eq_of_perm`).  An update
  keeps the keys distinct (`nodup_keys_update`), and an entry that it leaves is an old one or the
  one under its key (`mem_of_mem_update`).
* **Contents.**  The list is known from its keys and from what is found under each of them
  (`eq_map_of_find?`).
* **One key.**  What is collected from all entries, where the other keys give nothing, comes from
  the value under one key (`flatMap_eq_of_find?`).
* **All keys.**  Two lists are permutations of one another if they agree on the elements with each
  key (`perm_of_filter_eq`).
-/
import ArrowNotation.Keyed
import ArrowNotation.Proofs.FirstOccurrences
import Mathlib.Data.List.Nodup

namespace ArrowNotation.Keyed

variable {κ α β : Type} [DecidableEq κ] {key : κ} {entries : List (κ × α)}

/-! ## 1. Finding -/

theorem mem_of_find? {value : α} (h : find? key entries = some value) : (key, value) ∈ entries := by
  obtain ⟨⟨other, found⟩, hfound, rfl⟩ := Option.map_eq_some_iff.mp h
  have hkey : other = key := by simpa using List.find?_some hfound
  rw [← hkey]
  exact List.mem_of_find?_eq_some hfound

theorem find?_eq_none (h : key ∉ entries.map Prod.fst) : find? key entries = none := by
  cases hf : find? key entries with
  | none => rfl
  | some value => exact absurd (List.mem_map_of_mem (mem_of_find? hf)) h

theorem find?_of_mem {value : α} (hnodup : (entries.map Prod.fst).Nodup)
    (h : (key, value) ∈ entries) : find? key entries = some value :=
  congrArg (Option.map Prod.snd) (find?_eq_some_of_nodup hnodup h)

/-- **Among distinct keys the order does not matter** for what is found. -/
theorem find?_eq_of_perm {others : List (κ × α)} (hnodup : (entries.map Prod.fst).Nodup)
    (h : entries.Perm others) : find? key entries = find? key others := by
  have hothers : (others.map Prod.fst).Nodup := (h.map Prod.fst).nodup_iff.mp hnodup
  cases hfound : find? key entries with
  | some value => exact (find?_of_mem hothers (h.mem_iff.mp (mem_of_find? hfound))).symm
  | none =>
    cases hother : find? key others with
    | none => rfl
    | some value =>
      have hvalue := find?_of_mem hnodup (h.mem_iff.mpr (mem_of_find? hother))
      rw [hfound] at hvalue
      cases hvalue

/-! ## 2. Updates -/

variable {f : Option α → α}

/-- **An update keeps the keys distinct.** -/
theorem nodup_keys_update (h : (entries.map Prod.fst).Nodup) :
    ((update key f entries).map Prod.fst).Nodup := by
  rw [map_fst_update]
  split
  · exact h
  · rename_i hkey
    exact List.Nodup.append h (List.nodup_singleton key) (by simpa using hkey)

/-- **What an update leaves** are entries of before and the one under its key. -/
theorem mem_of_mem_update : ∀ {entries : List (κ × α)} {entry : κ × α},
    entry ∈ update key f entries →
      entry ∈ entries ∨ entry = (key, f (find? key entries))
  | [], entry, h => Or.inr (List.mem_singleton.mp h)
  | (other, old) :: entries, entry, h => by
    unfold update at h
    by_cases ho : other = key
    · subst ho
      rw [if_pos rfl] at h
      rw [find?_cons_self]
      exact (List.mem_cons.mp h).symm.imp (List.mem_cons_of_mem _) id
    · rw [if_neg ho] at h
      rw [find?_cons_of_ne ho]
      rcases List.mem_cons.mp h with rfl | h
      · exact Or.inl List.mem_cons_self
      · exact (mem_of_mem_update h).imp (List.mem_cons_of_mem _) id

theorem update_of_notMem : ∀ {entries : List (κ × α)}, key ∉ entries.map Prod.fst →
    update key f entries = entries ++ [(key, f none)]
  | [], _ => rfl
  | (other, old) :: entries, h => by
    rw [List.map_cons, List.mem_cons, not_or] at h
    rw [update, if_neg (Ne.symm h.1), update_of_notMem h.2, List.cons_append]

/-! ## 3. Contents -/

/-- **A keyed list is its keys with what is found under them.** -/
theorem eq_map_of_find? {value : κ → α} (hnodup : (entries.map Prod.fst).Nodup)
    (h : ∀ k ∈ entries.map Prod.fst, find? k entries = some (value k)) :
    entries = (entries.map Prod.fst).map fun k => (k, value k) := by
  rw [List.map_map]
  conv => lhs; rw [← List.map_id entries]
  refine List.map_congr_left ?_
  rintro ⟨k, v⟩ hmem
  have hfound : find? k entries = some (value k) := h k (List.mem_map_of_mem hmem)
  rw [find?_of_mem hnodup hmem] at hfound
  rw [Function.comp_apply, id, Option.some.inj hfound]

/-- **What one key contributes.**  If the other keys give nothing, all comes from the value under
that key. -/
theorem flatMap_eq_of_find? {g : κ × α → List β} : ∀ {entries : List (κ × α)},
    (entries.map Prod.fst).Nodup → (∀ entry ∈ entries, entry.1 ≠ key → g entry = []) →
      entries.flatMap g = ((find? key entries).map fun value => g (key, value)).getD []
  | [], _, _ => rfl
  | (other, value) :: entries, hnodup, hg => by
    rw [List.map_cons, List.nodup_cons] at hnodup
    have hrest : ∀ entry ∈ entries, entry.1 ≠ key → g entry = [] := fun entry h =>
      hg entry (List.mem_cons_of_mem _ h)
    rw [List.flatMap_cons, flatMap_eq_of_find? hnodup.2 hrest]
    by_cases ho : other = key
    · subst ho
      rw [find?_cons_self, find?_eq_none hnodup.1]
      exact List.append_nil _
    · rw [find?_cons_of_ne ho, hg (other, value) List.mem_cons_self ho, List.nil_append]

/-! ## 4. Parts -/

/-- **Lists that agree on the elements with each key are permutations** of one another. -/
theorem perm_of_filter_eq [DecidableEq α] (key : α → κ) {as bs : List α}
    (h : ∀ k, (as.filter fun a => key a = k) = bs.filter fun b => key b = k) : as.Perm bs := by
  refine List.perm_iff_count.mpr ?_
  intro a
  have hcount : ∀ cs : List α, cs.count a = (cs.filter fun c => key c = key a).count a :=
    fun cs => (List.count_filter (by simp)).symm
  rw [hcount as, hcount bs, h]

end ArrowNotation.Keyed
