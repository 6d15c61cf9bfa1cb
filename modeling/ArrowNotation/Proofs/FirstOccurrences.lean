/-
# Laws of first occurrences

What a list keeps when later elements with a key that has been seen are dropped (`distinctBy`).

* **Cutting.**  The first occurrences of a list in two parts are those of the first part and
  those of the second whose keys the first does not have (`distinctBy_append`,
  `distinctBy_append_seen`).
* **Searching.**  Dropping later occurrences does not change what a search for a key finds
  (`find?_distinctBy`).
* **Renaming.**  When every element is replaced by the first one with its key, equality does the
  work of the key (`distinctBy_map_eq_map_distinctBy`).
* **Collecting.**  Whatever takes in one element after the other, and puts each with a new key
  at the end, ends up with the first occurrences (`foldl_eq_append_distinctBy`).
-/
import ArrowNotation.Distinct

namespace ArrowNotation

variable {α β κ : Type} [DecidableEq κ] {key : α → κ}

/-! ## 1. One step, and the keys seen before

Of the keys seen before only membership counts, not their order and number. -/

/-- A key that has been seen drops the element. -/
theorem distinctBy_cons_of_mem {seen : List κ} {a : α} (ha : key a ∈ seen) (as : List α) :
    distinctBy key seen (a :: as) = distinctBy key seen as := by
  simp only [distinctBy, if_pos ha]

/-- A new key keeps the element. -/
theorem distinctBy_cons_of_notMem {seen : List κ} {a : α} (ha : key a ∉ seen) (as : List α) :
    distinctBy key seen (a :: as) = a :: distinctBy key (key a :: seen) as := by
  simp only [distinctBy, if_neg ha]

/-- Keys that have been seen matter as a set. -/
theorem distinctBy_congr : ∀ {seen seen' : List κ} (as : List α),
    (∀ k, k ∈ seen ↔ k ∈ seen') → distinctBy key seen as = distinctBy key seen' as
  | _, _, [], _ => rfl
  | seen, seen', a :: as, h => by
    have hcons : ∀ k, k ∈ key a :: seen ↔ k ∈ key a :: seen' := by
      intro k
      rw [List.mem_cons, List.mem_cons, h k]
    by_cases ha : key a ∈ seen
    · rw [distinctBy_cons_of_mem ha, distinctBy_cons_of_mem ((h _).mp ha), distinctBy_congr as h]
    · have ha' : key a ∉ seen' := fun h' => ha ((h _).mpr h')
      rw [distinctBy_cons_of_notMem ha, distinctBy_cons_of_notMem ha', distinctBy_congr as hcons]

theorem distinctBy_cons_seen {seen : List κ} {k : κ} (hk : k ∈ seen) (as : List α) :
    distinctBy key (k :: seen) as = distinctBy key seen as := by
  refine distinctBy_congr as ?_
  intro j
  rw [List.mem_cons]
  exact ⟨fun h => h.elim (fun e => e ▸ hk) id, Or.inr⟩

theorem distinctBy_singleton (seen : List κ) (a : α) :
    distinctBy key seen [a] = if key a ∈ seen then [] else [a] := rfl

theorem distinctBy_eq_nil {seen : List κ} : ∀ {as : List α}, (∀ a ∈ as, key a ∈ seen) →
    distinctBy key seen as = []
  | [], _ => rfl
  | a :: as, h => by
    rw [distinctBy_cons_of_mem (h a List.mem_cons_self)]
    exact distinctBy_eq_nil fun b hb => h b (List.mem_cons_of_mem a hb)

/-- **Elements with distinct new keys all stay.** -/
theorem distinctBy_eq_self : ∀ {seen : List κ} {as : List α}, (as.map key).Nodup →
    (∀ a ∈ as, key a ∉ seen) → distinctBy key seen as = as
  | _, [], _, _ => rfl
  | seen, a :: as, hnodup, h => by
    rw [List.map_cons, List.nodup_cons] at hnodup
    rw [distinctBy_cons_of_notMem (h a List.mem_cons_self)]
    congr 1
    refine distinctBy_eq_self hnodup.2 ?_
    intro b hb hmem
    rcases List.mem_cons.mp hmem with heq | hmem
    · exact hnodup.1 (heq ▸ List.mem_map_of_mem hb)
    · exact h b (List.mem_cons_of_mem a hb) hmem

theorem distinctBy_nil_eq_nil_iff {as : List α} : distinctBy key [] as = [] ↔ as = [] := by
  cases as <;> simp [distinctBy]

theorem mem_distinctBy_id_iff {as : List κ} {k : κ} : k ∈ distinctBy id [] as ↔ k ∈ as := by
  have h : k ∈ (distinctBy id [] as).map id ↔ k ∈ as.map id ∧ k ∉ [] := mem_keys_distinctBy
  rw [List.map_id, List.map_id] at h
  rw [h]
  exact and_iff_left (by simp)

/-! ## 2. Cutting -/

/-- **First occurrences of two lists, one after the other.**  The second part is read with the
keys of the first part seen. -/
theorem distinctBy_append : ∀ (seen : List κ) (as bs : List α),
    distinctBy key seen (as ++ bs) =
      distinctBy key seen as ++ distinctBy key (as.map key ++ seen) bs
  | _, [], _ => rfl
  | seen, a :: as, bs => by
    rw [List.cons_append]
    by_cases ha : key a ∈ seen
    · have hmem : key a ∈ as.map key ++ seen := List.mem_append_right _ ha
      rw [distinctBy_cons_of_mem ha, distinctBy_cons_of_mem ha, distinctBy_append seen as bs,
        List.map_cons, List.cons_append, distinctBy_cons_seen hmem]
    · rw [distinctBy_cons_of_notMem ha, distinctBy_cons_of_notMem ha,
        distinctBy_append (key a :: seen) as bs, List.cons_append]
      congr 2
      refine distinctBy_congr bs ?_
      intro k
      simp only [List.map_cons, List.cons_append, List.mem_cons, List.mem_append]
      exact or_left_comm

/-- **Seeing more keys drops the elements that have them.** -/
theorem distinctBy_append_seen (seen' : List κ) : ∀ (seen : List κ) (as : List α),
    distinctBy key (seen ++ seen') as =
      (distinctBy key seen as).filter fun a => key a ∉ seen'
  | _, [] => rfl
  | seen, a :: as => by
    -- A kept element joins the keys seen before, so both lists of them are needed.
    have ih := distinctBy_append_seen seen' seen as
    have ih' := distinctBy_append_seen seen' (key a :: seen) as
    rw [List.cons_append] at ih'
    by_cases ha : key a ∈ seen
    · rw [distinctBy_cons_of_mem ha, distinctBy_cons_of_mem (List.mem_append_left _ ha), ih]
    · rw [distinctBy_cons_of_notMem ha, List.filter_cons]
      by_cases ha' : key a ∈ seen'
      · have hmem : key a ∈ seen ++ seen' := List.mem_append_right _ ha'
        rw [distinctBy_cons_of_mem hmem, if_neg (by simpa using ha'), ← ih',
          distinctBy_cons_seen hmem]
      · have hmem : key a ∉ seen ++ seen' := fun h => (List.mem_append.mp h).elim ha ha'
        rw [distinctBy_cons_of_notMem hmem, if_pos (by simpa using ha'), ih']

/-! ## 3. Searching -/

/-- **The first element with a key stays.** -/
theorem find?_distinctBy {k : κ} : ∀ {seen : List κ} (as : List α), k ∉ seen →
    (distinctBy key seen as).find? (fun a => key a = k) = as.find? fun a => key a = k
  | _, [], _ => rfl
  | seen, a :: as, hk => by
    by_cases ha : key a ∈ seen
    · have hak : key a ≠ k := fun e => hk (e ▸ ha)
      rw [distinctBy_cons_of_mem ha, find?_distinctBy as hk,
        List.find?_cons_of_neg (by simpa using hak)]
    · rw [distinctBy_cons_of_notMem ha]
      by_cases hak : key a = k
      · rw [List.find?_cons_of_pos (by simpa using hak),
          List.find?_cons_of_pos (by simpa using hak)]
      · have hk' : k ∉ key a :: seen := by
          rw [List.mem_cons]
          exact fun h => h.elim (fun e => hak e.symm) hk
        rw [List.find?_cons_of_neg (by simpa using hak),
          List.find?_cons_of_neg (by simpa using hak), find?_distinctBy as hk']

theorem find?_eq_some_of_nodup : ∀ {as : List α} {a : α}, (as.map key).Nodup → a ∈ as →
    (as.find? fun b => key b = key a) = some a
  | [], _, _, h => absurd h (by simp)
  | b :: as, a, hnd, h => by
    rw [List.map_cons, List.nodup_cons] at hnd
    rcases List.mem_cons.mp h with rfl | h
    · exact List.find?_cons_of_pos (by simp)
    · have hne : key b ≠ key a := fun e => hnd.1 (e ▸ List.mem_map_of_mem h)
      rw [List.find?_cons_of_neg (by simpa using hne)]
      exact find?_eq_some_of_nodup hnd.2 h

theorem filter_eq_singleton_of_nodup : ∀ {as : List α} {a : α}, (as.map key).Nodup → a ∈ as →
    (as.filter fun b => key b = key a) = [a]
  | [], _, _, h => absurd h (by simp)
  | b :: as, a, hnd, h => by
    rw [List.map_cons, List.nodup_cons] at hnd
    rcases List.mem_cons.mp h with rfl | h
    · have hrest : (as.filter fun b => key b = key a) = [] := by
        refine List.filter_eq_nil_iff.mpr ?_
        intro b hb hkey
        exact hnd.1 (of_decide_eq_true hkey ▸ List.mem_map_of_mem hb)
      rw [List.filter_cons_of_pos (by simp), hrest]
    · have hne : key b ≠ key a := fun e => hnd.1 (e ▸ List.mem_map_of_mem h)
      rw [List.filter_cons_of_neg (by simpa using hne)]
      exact filter_eq_singleton_of_nodup hnd.2 h

/-- **What is kept is the first element with its key.** -/
theorem find?_eq_some_of_mem_distinctBy {as : List α} {a : α} (h : a ∈ distinctBy key [] as) :
    (as.find? fun b => key b = key a) = some a := by
  have hnil : key a ∉ [] := by simp
  rw [← find?_distinctBy as hnil]
  exact find?_eq_some_of_nodup (nodup_keys_distinctBy key [] as) h

/-! ## 4. Renaming -/

/-- **A renaming that tells elements apart as the key does.**  The first occurrences of the new
elements, compared as they are, are the new names of the first occurrences. -/
theorem distinctBy_map_eq_map_distinctBy [DecidableEq β] {f : α → β} :
    ∀ (seen as : List α), (∀ a ∈ seen ++ as, ∀ b ∈ seen ++ as, f a = f b ↔ key a = key b) →
      distinctBy id (seen.map f) (as.map f) = (distinctBy key (seen.map key) as).map f
  | _, [], _ => rfl
  | seen, a :: as, h => by
    have hmem : f a ∈ seen.map f ↔ key a ∈ seen.map key := by
      simp only [List.mem_map]
      have hiff : ∀ b ∈ seen, f b = f a ↔ key b = key a := fun b hb =>
        h b (List.mem_append_left _ hb) a (by simp)
      constructor
      · rintro ⟨b, hb, e⟩
        exact ⟨b, hb, (hiff b hb).mp e⟩
      · rintro ⟨b, hb, e⟩
        exact ⟨b, hb, (hiff b hb).mpr e⟩
    have hrest : ∀ b ∈ a :: seen ++ as, b ∈ seen ++ a :: as := by
      intro b hb
      simp only [List.cons_append, List.mem_cons, List.mem_append] at hb ⊢
      exact or_left_comm.mp hb
    have hold : ∀ b ∈ seen ++ as, b ∈ seen ++ a :: as := fun b hb =>
      hrest b (List.mem_cons_of_mem a hb)
    rw [List.map_cons]
    by_cases ha : key a ∈ seen.map key
    · have hfa : id (f a) ∈ seen.map f := hmem.mpr ha
      rw [distinctBy_cons_of_mem ha, distinctBy_cons_of_mem hfa]
      exact distinctBy_map_eq_map_distinctBy seen as
        fun b hb c hc => h b (hold b hb) c (hold c hc)
    · have hfa : id (f a) ∉ seen.map f := fun h' => ha (hmem.mp h')
      rw [distinctBy_cons_of_notMem ha, distinctBy_cons_of_notMem hfa, List.map_cons]
      congr 1
      exact distinctBy_map_eq_map_distinctBy (a :: seen) as
        fun b hb c hc => h b (hrest b hb) c (hrest c hc)

/-! ## 5. Collecting -/

/-- **A collection that puts every new key at its end.**  Of a collection only the elements that
it shows count, and one step adds the element it is given exactly when its key is new. -/
theorem foldl_eq_append_distinctBy {σ ι : Type} {step : σ → ι → σ} (key : α → κ)
    (view : σ → List α) (given : ι → α)
    (hstep : ∀ s i, view (step s i) = view s ++ distinctBy key ((view s).map key) [given i]) :
    ∀ (s : σ) (is : List ι),
      view (is.foldl step s) = view s ++ distinctBy key ((view s).map key) (is.map given)
  | s, [] => (List.append_nil (view s)).symm
  | s, i :: is => by
    have hkeys : ∀ k, k ∈ (view (step s i)).map key ↔
        k ∈ [given i].map key ++ (view s).map key := by
      intro k
      rw [hstep, List.map_append, List.mem_append, mem_keys_distinctBy, List.mem_append]
      by_cases hk : k ∈ (view s).map key <;> simp [hk]
    calc view ((i :: is).foldl step s)
        = view (is.foldl step (step s i)) := rfl
      _ = view (step s i) ++ distinctBy key ((view (step s i)).map key) (is.map given) :=
          foldl_eq_append_distinctBy key view given hstep (step s i) is
      _ = view s ++ (distinctBy key ((view s).map key) [given i]
            ++ distinctBy key ([given i].map key ++ (view s).map key) (is.map given)) := by
          rw [distinctBy_congr _ hkeys, hstep, List.append_assoc]
      _ = view s ++ distinctBy key ((view s).map key) ((i :: is).map given) := by
          rw [← distinctBy_append, List.singleton_append, List.map_cons]

end ArrowNotation
