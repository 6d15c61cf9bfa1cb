/-
# Laws of trimming

Trimming takes a run of blanks off each end of a text and leaves a text with no blank at either
end (`exists_trim`, `isTrimmed_trim`), and these two facts determine what it leaves
(`trim_append_append`).  So blanks put around a text are never seen behind `trim`, and trimming
twice is trimming once.
-/
import ArrowNotation.Text.Classes

namespace ArrowNotation.Text

/-! ## 1. Runs of blanks, and texts without blanks at their ends -/

/-- A text of blanks only, which may be empty. -/
def AllBlank (t : Text) : Prop := ∀ c ∈ t, isBlank c = true

instance (t : Text) : Decidable (AllBlank t) :=
  inferInstanceAs (Decidable (∀ c ∈ t, isBlank c = true))

/-- A text that neither begins nor ends with a blank. -/
structure IsTrimmed (t : Text) : Prop where
  head : ∀ c ∈ t.head?, isBlank c = false
  last : ∀ c ∈ t.getLast?, isBlank c = false

theorem allBlank_nil : AllBlank [] := fun _ h => absurd h (by simp)

/-! ## 2. The front -/

theorem trimLeft_append_left {w : Text} (hw : AllBlank w) (t : Text) :
    trimLeft (w ++ t) = trimLeft t :=
  List.dropWhile_append_of_pos hw

theorem trimLeft_eq_nil {t : Text} (ht : AllBlank t) : trimLeft t = [] := by
  have h := trimLeft_append_left ht []
  rwa [List.append_nil] at h

theorem trimLeft_eq_self : ∀ {t : Text}, (∀ c ∈ t.head?, isBlank c = false) → trimLeft t = t
  | [], _ => rfl
  | c :: rest, h => by
    have hc : isBlank c = false := h c rfl
    exact List.dropWhile_cons_of_neg (by simp [hc])

/-- What is left does not begin with a blank. -/
theorem isBlank_head?_trimLeft (t : Text) : ∀ c ∈ (trimLeft t).head?, isBlank c = false := by
  intro c hc
  have h := List.head?_dropWhile_not isBlank t
  rw [Option.mem_def, trimLeft] at hc
  rw [hc] at h
  simpa using h

/-! ## 3. The end -/

theorem trimRight_eq_nil_iff : ∀ {t : Text}, trimRight t = [] ↔ AllBlank t
  | [] => ⟨fun _ => allBlank_nil, fun _ => rfl⟩
  | c :: rest => by
    have ih : trimRight rest = [] ↔ AllBlank rest := trimRight_eq_nil_iff
    have hcons : AllBlank (c :: rest) ↔ isBlank c = true ∧ AllBlank rest := List.forall_mem_cons
    unfold trimRight
    cases hr : trimRight rest with
    | nil =>
      have hrest : AllBlank rest := ih.mp hr
      by_cases hc : isBlank c = true
      · simp [hcons, hc, hrest]
      · simp [hcons, hc]
    | cons d kept =>
      have hrest : ¬ AllBlank rest := fun h => by simp [ih.mpr h] at hr
      simp [hcons, hrest]

theorem trimRight_append_right {w : Text} (hw : AllBlank w) : ∀ t : Text,
    trimRight (t ++ w) = trimRight t
  | [] => trimRight_eq_nil_iff.mpr hw
  | c :: rest => by
    rw [List.cons_append, trimRight, trimRight, trimRight_append_right hw rest]

theorem trimRight_eq_self {t : Text} (h : ∀ c ∈ t.getLast?, isBlank c = false) :
    trimRight t = t := by
  obtain ⟨removed, hb, ht⟩ := exists_trimRight t
  rcases List.eq_nil_or_concat removed with rfl | ⟨others, c, rfl⟩
  · rw [List.append_nil] at ht
    exact ht.symm
  · have hlast : c ∈ t.getLast? := by
      rw [ht, List.concat_eq_append, ← List.append_assoc, List.getLast?_append]
      rfl
    have hc : isBlank c = true := hb c (by simp)
    rw [h c hlast] at hc
    exact absurd hc (by simp)

/-- What is left is the beginning of the text. -/
theorem take_length_trimRight (t : Text) : t.take (trimRight t).length = trimRight t := by
  obtain ⟨removed, -, ht⟩ := exists_trimRight t
  have htake := congrArg (List.take (trimRight t).length) ht
  rwa [List.take_left] at htake

/-- What stands behind it are blanks. -/
theorem allBlank_drop_length_trimRight (t : Text) : AllBlank (t.drop (trimRight t).length) := by
  obtain ⟨removed, hremoved, ht⟩ := exists_trimRight t
  have hdrop := congrArg (List.drop (trimRight t).length) ht
  rw [List.drop_left] at hdrop
  rwa [hdrop]

theorem length_trimRight_le (t : Text) : (trimRight t).length ≤ t.length := by
  rw [← take_length_trimRight t, List.length_take]
  exact Nat.min_le_right _ _

/-! ## 4. Both ends -/

/-- **Trimming removes a run of blanks at each end.** -/
theorem exists_trim (t : Text) :
    ∃ before after : Text, AllBlank before ∧ AllBlank after ∧ t = before ++ trim t ++ after := by
  obtain ⟨before, hbefore, ht⟩ := exists_trimLeft t
  obtain ⟨after, hafter, ht'⟩ := exists_trimRight (trimLeft t)
  refine ⟨before, after, hbefore, hafter, ?_⟩
  rw [List.append_assoc, trim, ← ht', ← ht]

/-- **Trimming leaves no blank at either end.** -/
theorem isTrimmed_trim (t : Text) : IsTrimmed (trim t) where
  head := by
    intro c hc
    obtain ⟨removed, -, ht⟩ := exists_trimRight (trimLeft t)
    refine isBlank_head?_trimLeft t c ?_
    rw [ht, List.head?_append]
    rw [Option.mem_def, trim] at hc
    rw [hc]
    rfl
  last := isBlank_getLast_trimRight (trimLeft t)

/-- **What is left is determined**: if a text is blanks, a text without blanks at its ends, and
blanks, then trimming leaves the text in the middle. -/
theorem trim_append_append {before u after : Text} (hbefore : AllBlank before) (hu : IsTrimmed u)
    (hafter : AllBlank after) : trim (before ++ u ++ after) = u := by
  rw [trim, List.append_assoc, trimLeft_append_left hbefore]
  cases u with
  | nil => rw [List.nil_append, trimLeft_eq_nil hafter, trimRight_nil]
  | cons c rest =>
    have hhead : ∀ d ∈ (c :: rest ++ after).head?, isBlank d = false := hu.head
    rw [trimLeft_eq_self hhead, trimRight_append_right hafter, trimRight_eq_self hu.last]

theorem trim_eq_self {t : Text} (h : IsTrimmed t) : trim t = t := by
  have ht := trim_append_append allBlank_nil h allBlank_nil
  rwa [List.nil_append, List.append_nil] at ht

@[simp] theorem trim_trim (t : Text) : trim (trim t) = trim t := trim_eq_self (isTrimmed_trim t)

theorem trim_trimLeft (t : Text) : trim (trimLeft t) = trim t := by
  rw [trim, trim, trimLeft_eq_self (isBlank_head?_trimLeft t)]

theorem trim_append_left {w : Text} (hw : AllBlank w) (t : Text) : trim (w ++ t) = trim t := by
  rw [trim, trimLeft_append_left hw, trim]

theorem trim_eq_nil {t : Text} (ht : AllBlank t) : trim t = [] := by
  rw [trim, trimLeft_eq_nil ht, trimRight_nil]

theorem trim_append_right {w : Text} (hw : AllBlank w) (t : Text) : trim (t ++ w) = trim t := by
  obtain ⟨before, after, hbefore, hafter, ht⟩ := exists_trim t
  have hend : AllBlank (after ++ w) := fun c hc => (List.mem_append.mp hc).elim (hafter c) (hw c)
  conv => lhs; rw [ht, List.append_assoc]
  exact trim_append_append hbefore (isTrimmed_trim t) hend

theorem trim_trimRight (t : Text) : trim (trimRight t) = trim t := by
  obtain ⟨removed, hremoved, ht⟩ := exists_trimRight t
  conv => rhs; rw [ht]
  exact (trim_append_right hremoved _).symm

@[simp] theorem trimRight_trimRight (t : Text) : trimRight (trimRight t) = trimRight t :=
  trimRight_eq_self (isBlank_getLast_trimRight t)

/-- Trimming adds no character. -/
theorem mem_of_mem_trim {t : Text} {c : CodePoint} (h : c ∈ trim t) : c ∈ t := by
  obtain ⟨before, after, -, -, ht⟩ := exists_trim t
  rw [ht]
  exact List.mem_append_left _ (List.mem_append_right _ h)

end ArrowNotation.Text
