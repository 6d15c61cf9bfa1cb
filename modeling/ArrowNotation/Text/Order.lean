/-
# The order of texts

Texts are ordered by their first difference, where characters are ordered by their code points
and a text comes before whatever it begins.  The order is total, transitive and antisymmetric,
so a list of distinct texts has exactly one order.
-/
import ArrowNotation.Text.Basic

namespace ArrowNotation.Text

/-- Whether the first text is the second or comes before it. -/
def atMost : Text → Text → Bool
  | [], _ => true
  | _ :: _, [] => false
  | a :: as, b :: bs => if a = b then atMost as bs else decide (a.toNat < b.toNat)

/-- Two characters are equal or one of them comes first. -/
theorem toNat_lt_or_gt {a b : CodePoint} (h : a ≠ b) : a.toNat < b.toNat ∨ b.toNat < a.toNat := by
  rcases Nat.lt_trichotomy a.toNat b.toNat with hlt | heq | hgt
  · exact Or.inl hlt
  · exact absurd (CodePoint.toNat_inj.mp heq) h
  · exact Or.inr hgt

theorem atMost_total : ∀ s t : Text, (atMost s t || atMost t s) = true
  | [], _ => by simp [atMost]
  | _ :: _, [] => by simp [atMost]
  | a :: as, b :: bs => by
    by_cases h : a = b
    · subst h
      simpa [atMost] using atMost_total as bs
    · rcases toNat_lt_or_gt h with hlt | hlt <;> simp [atMost, h, Ne.symm h, hlt]

theorem atMost_antisymm : ∀ {s t : Text}, atMost s t = true → atMost t s = true → s = t
  | [], [], _, _ => rfl
  | [], _ :: _, _, h => by simp [atMost] at h
  | _ :: _, [], h, _ => by simp [atMost] at h
  | a :: as, b :: bs, hst, hts => by
    by_cases h : a = b
    · subst h
      simp only [atMost, if_true] at hst hts
      rw [atMost_antisymm hst hts]
    · simp only [atMost, h, Ne.symm h, if_false, decide_eq_true_eq] at hst hts
      omega

theorem atMost_trans : ∀ {s t u : Text}, atMost s t = true → atMost t u = true →
    atMost s u = true
  | [], _, _, _, _ => by simp [atMost]
  | _ :: _, [], _, h, _ => by simp [atMost] at h
  | _ :: _, _ :: _, [], _, h => by simp [atMost] at h
  | a :: as, b :: bs, c :: cs, hst, htu => by
    by_cases hab : a = b
    · subst hab
      by_cases hac : a = c
      · subst hac
        simp only [atMost, if_true] at hst htu ⊢
        exact atMost_trans hst htu
      · simpa [atMost, hac] using htu
    · simp only [atMost, hab, if_false, decide_eq_true_eq] at hst
      by_cases hbc : b = c
      · subst hbc
        simpa [atMost, hab] using hst
      · simp only [atMost, hbc, if_false, decide_eq_true_eq] at htu
        have hac : a ≠ c := by
          rintro rfl
          omega
        simp only [atMost, hac, if_false, decide_eq_true_eq]
        omega

end ArrowNotation.Text
