/-
# When a line means what

The kinds and meanings of a line in terms of its trimmed text: a candidate is a line whose
trimmed text is not empty and opens no comment, and a candidate means an edge or is not
recognized according to what the grammar says about that text.
-/
import ArrowNotation.Line.Meaning

namespace ArrowNotation

/-- **A candidate holds something, and it is no comment.** -/
theorem LineKind.ofLine_eq_candidate_iff {line : Text} :
    ofLine line = candidate ↔
      Text.trim line ≠ [] ∧ commentMark.isPrefixOf (Text.trim line) = false := by
  by_cases hblank : Text.trim line = []
  · simp [ofLine, hblank]
  · cases hcomment : commentMark.isPrefixOf (Text.trim line) <;> simp [ofLine, hblank, hcomment]

/-- **A line that begins with a word character is a candidate**: it is not blank, and no comment
begins like this. -/
theorem LineKind.ofLine_of_isWord {line rest : Text} {c : CodePoint}
    (htrim : Text.trim line = c :: rest) (hc : Text.isWord c = true) :
    ofLine line = candidate := by
  have hslash : Text.isWord '/' = false := by decide +kernel
  have hne : CodePoint.ofChar '/' ≠ c := by
    rintro rfl
    rw [hslash] at hc
    exact absurd hc (by simp)
  refine ofLine_eq_candidate_iff.mpr ?_
  rw [htrim]
  refine ⟨List.cons_ne_nil c rest, ?_⟩
  rw [commentMark, List.isPrefixOf_cons_cons, beq_eq_false_iff_ne.mpr hne, Bool.false_and]

namespace LineMeaning

/-- **Blank lines and comments say nothing.** -/
theorem ofLine_eq_nothing {line : Text} (h : LineKind.ofLine line ≠ .candidate) :
    ofLine line = nothing := by
  unfold ofLine
  cases hk : LineKind.ofLine line with
  | blank => rfl
  | comment => rfl
  | candidate => exact absurd hk h

theorem ofLine_of_candidate {line : Text} (h : LineKind.ofLine line = .candidate) :
    ofLine line = (EdgeLine.ofLine? (Text.trim line)).elim unrecognized edge := by
  simp only [ofLine, h]
  cases EdgeLine.ofLine? (Text.trim line) <;> rfl

theorem ofLine_eq_edge_iff {line : Text} {w : EdgeLine} :
    ofLine line = edge w ↔
      LineKind.ofLine line = .candidate ∧ EdgeLine.ofLine? (Text.trim line) = some w := by
  by_cases hk : LineKind.ofLine line = .candidate
  · rw [ofLine_of_candidate hk]
    cases EdgeLine.ofLine? (Text.trim line) <;> simp [hk]
  · simp [ofLine_eq_nothing hk, hk]

theorem ofLine_eq_unrecognized_iff {line : Text} :
    ofLine line = unrecognized ↔
      LineKind.ofLine line = .candidate ∧ EdgeLine.ofLine? (Text.trim line) = none := by
  by_cases hk : LineKind.ofLine line = .candidate
  · rw [ofLine_of_candidate hk]
    cases EdgeLine.ofLine? (Text.trim line) <;> simp [hk]
  · simp [ofLine_eq_nothing hk, hk]

theorem edge?_ofLine_eq_some_iff {line : Text} {w : EdgeLine} :
    (ofLine line).edge? = some w ↔
      LineKind.ofLine line = .candidate ∧ EdgeLine.ofLine? (Text.trim line) = some w := by
  rw [← ofLine_eq_edge_iff]
  cases ofLine line <;> simp [edge?]

end LineMeaning

/-- **A line is at fault exactly when it is a candidate that writes no edge.** -/
theorem isWellFormedLine_eq_false_iff {line : Text} :
    isWellFormedLine line = false ↔ LineMeaning.ofLine line = .unrecognized := by
  simp [isWellFormedLine]

theorem trim_ne_nil_of_isWellFormedLine_eq_false {line : Text}
    (h : isWellFormedLine line = false) : Text.trim line ≠ [] := by
  have hu := LineMeaning.ofLine_eq_unrecognized_iff.mp (isWellFormedLine_eq_false_iff.mp h)
  exact (LineKind.ofLine_eq_candidate_iff.mp hu.1).1

end ArrowNotation
