/-
# Lower case is final

A text in lower case stays as it is when it is put in lower case again.  The mapping looks at the
neighbours of a capital sigma, and one character may become two, so this does not follow from a
look at single characters; but it follows from two facts about them.

* **Whatever comes out is in lower case**, character by character (`lowerChar_of_mem_lowerAfter`).
  For the letters of the table this means that the stretch of code points that a run of letters is
  moved to holds no letter of any run (`Data.LetterRun.isClearOf`): the stretches lie apart, or they
  interlock, as where capitals and small letters take turns.
* **What is in lower case is left alone**, whatever its neighbours are, because no capital sigma is
  left in it (`lowerAfter_eq_self`).
-/
import ArrowNotation.Text.LetterCase

namespace ArrowNotation.Text

/-! ## 1. Runs of letters -/

namespace Data.LetterRun

/-- How far the last letter of a run is from the first. -/
def span (run : LetterRun) : Nat := run.last - run.first

/-- Whether two code points at which stretches begin differ in parity, the first stretch is one code
point or goes on in steps of two, and the second goes on in steps of two, so that the first stretch
steps over the second. -/
def interlocks (run other : LetterRun) : Bool :=
  (run.stride == 2 || run.span == 0) && other.stride == 2 && (run.image + other.first) % 2 == 1

/-- Whether none of the lower-case forms of a run belongs to one of some runs, which are searched as
`lowerCode` searches them: the search is over when the runs lie beyond. -/
def isClearOf (run : LetterRun) : List LetterRun → Bool
  | [] => true
  | other :: others =>
    Nat.blt (run.image + run.span) other.first
      || (Nat.blt other.last run.image || run.interlocks other) && run.isClearOf others

end Data.LetterRun

/-- A letter and its lower-case form: the form is as far from the first form of the run as the
letter is from the first letter, and the letters of the run stand in equal steps. -/
theorem lowerCode_cases {n : Nat} : ∀ {runs : List Data.LetterRun},
    lowerCode n runs = n ∨ ∃ run ∈ runs, ∃ k ≤ run.span, k % run.stride = 0 ∧
      lowerCode n runs = run.image + k
  | [] => Or.inl rfl
  | run :: runs => by
    unfold lowerCode
    split
    · exact Or.inl rfl
    · split
      · split
        · next hbelow habove hstep =>
          refine Or.inr ⟨run, List.mem_cons_self, n - run.first, ?_, hstep, rfl⟩
          exact Nat.sub_le_sub_right habove run.first
        · exact Or.inl rfl
      · exact lowerCode_cases.imp_right fun ⟨other, hmem, h⟩ =>
          ⟨other, List.mem_cons_of_mem run hmem, h⟩

/-- **A form of a run that is clear of others is in lower case**, as far as the others go. -/
theorem lowerCode_of_isClearOf {run : Data.LetterRun} {k : Nat} (hk : k ≤ run.span)
    (hstep : k % run.stride = 0) : ∀ {runs : List Data.LetterRun}, run.isClearOf runs = true →
      lowerCode (run.image + k) runs = run.image + k
  | [], _ => rfl
  | other :: others, h => by
    simp only [Data.LetterRun.isClearOf, Bool.or_eq_true, Bool.and_eq_true, Nat.blt_eq] at h
    unfold lowerCode
    rcases h with hbeyond | ⟨hother, hothers⟩
    · rw [if_pos (by omega)]
    · split
      · rfl
      · split
        · next hbelow habove =>
          -- Only a stretch that interlocks with this one comes so near.
          rcases hother with hbefore | hinterlocks
          · omega
          · simp only [Data.LetterRun.interlocks, Bool.and_eq_true, Bool.or_eq_true,
              beq_iff_eq] at hinterlocks
            obtain ⟨⟨hrun, htwo⟩, hparity⟩ := hinterlocks
            have heven : k % 2 = 0 := by
              rcases hrun with hrun | hspan
              · rwa [hrun] at hstep
              · omega
            rw [if_neg]
            rw [htwo]
            omega
        · exact lowerCode_of_isClearOf hk hstep hothers

/-- **The lower-case forms of all runs** are code points, are in lower case, and are not the
capital I with a dot, which is treated apart. -/
theorem of_mem_lowerRuns {run : Data.LetterRun} (h : run ∈ Data.lowerRuns) :
    run.isClearOf Data.lowerRuns = true ∧ run.image + run.span < 0x110000 ∧
      (run.image + run.span < 0x130 ∨ 0x130 < run.image) := by
  have hall : (Data.lowerRuns.all fun run => run.isClearOf Data.lowerRuns &&
      Nat.blt (run.image + run.span) 0x110000 &&
      (Nat.blt (run.image + run.span) 0x130 || Nat.blt 0x130 run.image)) = true := by
    decide +kernel
  have hrun := List.all_eq_true.mp hall run h
  simp only [Bool.and_eq_true, Bool.or_eq_true, Nat.blt_eq] at hrun
  exact ⟨hrun.1.1, hrun.1.2, hrun.2⟩

/-! ## 2. Characters -/

/-- A character that the table leaves alone is in lower case, unless it is the capital I with a
dot. -/
theorem lowerChar_eq_self {c : CodePoint} (hc : c ≠ '\u0130')
    (h : lowerCode c.toNat Data.lowerRuns = c.toNat) : lowerChar c = [c] := by
  rw [lowerChar, if_neg hc, h, CodePoint.ofNat_toNat]

/-- **The lower-case form of a character is in lower case.** -/
theorem lowerChar_of_mem_lowerChar {c d : CodePoint} (h : d ∈ lowerChar c) : lowerChar d = [d] := by
  unfold lowerChar at h
  split at h
  · simp only [List.mem_cons, List.not_mem_nil, or_false] at h
    rcases h with rfl | rfl <;> decide +kernel
  · next hc =>
    rw [List.mem_singleton] at h
    rcases @lowerCode_cases c.toNat Data.lowerRuns with hself | ⟨run, hmem, k, hk, hstep, hform⟩
    · rw [hself, CodePoint.ofNat_toNat] at h
      rw [h]
      exact lowerChar_eq_self hc hself
    · obtain ⟨hclear, hbound, hdotted⟩ := of_mem_lowerRuns hmem
      have hd : d.toNat = run.image + k := by
        rw [h, hform, CodePoint.toNat_ofNat (by omega)]
      refine lowerChar_eq_self ?_ ?_
      · rintro rfl
        have hd : 0x130 = run.image + k := hd
        omega
      · rw [hd]
        exact lowerCode_of_isClearOf hk hstep hclear

theorem lowerChar_lowerSigma (before after : Text) :
    lowerChar (lowerSigma before after) = [lowerSigma before after] := by
  unfold lowerSigma
  split <;> decide +kernel

theorem ne_capitalSigma {c : CodePoint} (h : lowerChar c = [c]) : c ≠ CodePoint.ofChar 'Σ' := by
  rintro rfl
  exact absurd h (by decide +kernel)

/-! ## 3. Texts -/

/-- **Whatever comes out is in lower case.** -/
theorem lowerChar_of_mem_lowerAfter {d : CodePoint} : ∀ {before t : Text},
    d ∈ lowerAfter before t → lowerChar d = [d]
  | _, [], h => absurd h List.not_mem_nil
  | before, c :: rest, h => by
    rw [lowerAfter, List.mem_append] at h
    rcases h with h | h
    · split at h
      · rw [List.mem_singleton.mp h]
        exact lowerChar_lowerSigma before rest
      · exact lowerChar_of_mem_lowerChar h
    · exact lowerChar_of_mem_lowerAfter h

/-- **What is in lower case is left alone**, after any characters. -/
theorem lowerAfter_eq_self : ∀ {before t : Text}, (∀ c ∈ t, lowerChar c = [c]) →
    lowerAfter before t = t
  | _, [], _ => rfl
  | before, c :: rest, h => by
    obtain ⟨hc, hrest⟩ := List.forall_mem_cons.mp h
    rw [lowerAfter, if_neg (ne_capitalSigma hc), hc, lowerAfter_eq_self hrest,
      List.singleton_append]

/-- **Lower case is final.** -/
@[simp] theorem lower_lower (t : Text) : lower (lower t) = lower t :=
  lowerAfter_eq_self fun _ => lowerChar_of_mem_lowerAfter

/-- Two words, one with two capital sigmas of which the second is final: the lower-case text holds
both small sigmas and keeps them, and the capital I with a dot has become two characters. -/
example : lower "ΣΆΣ İ".toText = "σάς i\u0307".toText ∧
    lower "σάς i\u0307".toText = "σάς i\u0307".toText := by decide +kernel

end ArrowNotation.Text
