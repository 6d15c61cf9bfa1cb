/-
# Canonically equivalent spellings read the same

Two spellings of a text that differ only in how accents and other marks are composed are read
alike.  This is not plain from the reader, which trims a line and looks for a comment mark while
the line is still as it was written, and composes only what goes to the grammar.

What makes it true is that composing first would come to the same: trimming commutes with it, and
it neither makes nor breaks a comment mark or a blank line.  So the kind and the meaning of a
line are functions of its composed form (`LineKind.ofLine_composed`,
`LineMeaning.ofLine_eq_ofComposed`), and everything that is read from a text is a function of the
composed forms of its lines.
-/
import ArrowNotation.Proofs.Diagram.Faults
import ArrowNotation.Proofs.Text.Composition
import Mathlib.Data.List.GetD

namespace ArrowNotation

/-! ## 1. Lines -/

/-- **Composing a line does not change its kind.** -/
theorem LineKind.ofLine_composed (line : Text) : ofLine (Text.composed line) = ofLine line := by
  have hblank : Text.trim (Text.composed line) = [] ↔ Text.trim line = [] := by
    rw [← Text.composed_trim, Text.composed_eq_nil_iff]
  have hcomment : commentMark.isPrefixOf (Text.trim (Text.composed line))
      = commentMark.isPrefixOf (Text.trim line) := by
    rw [← Text.composed_trim]
    exact Text.isPrefixOf_slashes_composed 2 (Text.trim line)
  simp only [ofLine, hblank, hcomment]

namespace LineMeaning

/-- The meaning of a line that is in composed form already. -/
def ofComposed (line : Text) : LineMeaning :=
  match LineKind.ofLine line with
  | .blank => nothing
  | .comment => nothing
  | .candidate => (EdgeLine.ofComposed? (Text.trim line)).elim unrecognized edge

/-- **The meaning of a line is that of its composed form.** -/
theorem ofLine_eq_ofComposed (line : Text) : ofLine line = ofComposed (Text.composed line) := by
  have hkind := LineKind.ofLine_composed line
  cases hk : LineKind.ofLine line with
  | blank => rw [ofLine_eq_nothing (by simp [hk]), ofComposed, hkind, hk]
  | comment => rw [ofLine_eq_nothing (by simp [hk]), ofComposed, hkind, hk]
  | candidate =>
    rw [ofLine_of_candidate hk, ofComposed, hkind, hk, EdgeLine.ofLine?, Text.composed_trim]

end LineMeaning

/-! ## 2. Texts -/

namespace Diagram

/-- Two texts with the same number of lines, where lines with the same number have the same
composed form. -/
def CanonicallyEquivalent (t u : Text) : Prop :=
  (Text.lines t).map Text.composed = (Text.lines u).map Text.composed

instance (t u : Text) : Decidable (CanonicallyEquivalent t u) :=
  inferInstanceAs (Decidable ((Text.lines t).map Text.composed = (Text.lines u).map Text.composed))

variable {t u : Text}

theorem CanonicallyEquivalent.map_eq {β : Type} (h : CanonicallyEquivalent t u)
    {f g : Text → β} (hf : ∀ line, f line = g (Text.composed line)) :
    (Text.lines t).map f = (Text.lines u).map f := by
  have hfactor : ∀ ls : List Text, ls.map f = (ls.map Text.composed).map g := by
    intro ls
    rw [List.map_map]
    exact List.map_congr_left fun line _ => hf line
  rw [hfactor, hfactor, h]

theorem CanonicallyEquivalent.map_ofLine_eq (h : CanonicallyEquivalent t u) :
    (Text.lines t).map LineMeaning.ofLine = (Text.lines u).map LineMeaning.ofLine :=
  h.map_eq LineMeaning.ofLine_eq_ofComposed

theorem CanonicallyEquivalent.map_isWellFormedLine_eq (h : CanonicallyEquivalent t u) :
    (Text.lines t).map isWellFormedLine = (Text.lines u).map isWellFormedLine :=
  h.map_eq (g := fun line => decide (LineMeaning.ofComposed line ≠ .unrecognized)) fun line => by
    rw [isWellFormedLine, LineMeaning.ofLine_eq_ofComposed]

/-- **They write the same edges.** -/
theorem CanonicallyEquivalent.graph_eq (h : CanonicallyEquivalent t u) : graph t = graph u := by
  have hedges : ∀ text : Text, edgeLines text
      = ((Text.lines text).map LineMeaning.ofLine).filterMap LineMeaning.edge? := by
    intro text
    rw [List.filterMap_map]
    rfl
  rw [graph, graph, hedges t, hedges u, h.map_ofLine_eq]

/-- **They have the same faults**, by number. -/
theorem CanonicallyEquivalent.faultyLines_eq (h : CanonicallyEquivalent t u) :
    faultyLines t = faultyLines u := by
  have hfaults : ∀ text : Text, faultyLines text
      = (List.range ((Text.lines text).map isWellFormedLine).length).filter fun i =>
          !((Text.lines text).map isWellFormedLine).getD i (isWellFormedLine []) := by
    intro text
    rw [List.length_map]
    refine List.filter_congr ?_
    intro i _
    rw [Text.lineAt, List.getD_map]
  rw [hfaults t, hfaults u, h.map_isWellFormedLine_eq]

/-- The strict reading reports a line with a given number exactly when that is the first
fault. -/
theorem exists_strictGraph_eq_unrecognizedLine_iff {text : Text} {number : Nat} :
    (∃ content, strictGraph text = .error (.unrecognizedLine number content)) ↔
      ∃ i, (faultyLines text).head? = some i ∧ number = i + 1 := by
  simp only [strictGraph_eq_unrecognizedLine_iff]
  constructor
  · rintro ⟨content, i, hi, hnumber, -⟩
    exact ⟨i, hi, hnumber⟩
  · rintro ⟨i, hi, hnumber⟩
    exact ⟨_, i, hi, hnumber, rfl⟩

/-- **Canonically equivalent texts are read alike.**  Their lines are of the same kinds and
equally well formed; they have the same graph; and the strict reading accepts both with the same
graph, or reports a line of the same number in both, or misses nodes in both. -/
theorem readings_of_canonicallyEquivalent (h : CanonicallyEquivalent t u) :
    (Text.lines t).map LineKind.ofLine = (Text.lines u).map LineKind.ofLine ∧
    (Text.lines t).map isWellFormedLine = (Text.lines u).map isWellFormedLine ∧
    graph t = graph u ∧
    (∀ g, strictGraph t = .ok g ↔ strictGraph u = .ok g) ∧
    (∀ number, (∃ content, strictGraph t = .error (.unrecognizedLine number content)) ↔
      ∃ content, strictGraph u = .error (.unrecognizedLine number content)) ∧
    (strictGraph t = .error .noNodes ↔ strictGraph u = .error .noNodes) := by
  have hkinds : (Text.lines t).map LineKind.ofLine = (Text.lines u).map LineKind.ofLine :=
    h.map_eq fun line => (LineKind.ofLine_composed line).symm
  have hstrict : faultyLines t = [] → strictGraph t = strictGraph u := by
    intro hnil
    rw [strictGraph_of_faultyLines_eq_nil hnil,
      strictGraph_of_faultyLines_eq_nil (h.faultyLines_eq ▸ hnil), h.graph_eq]
  refine ⟨hkinds, h.map_isWellFormedLine_eq, h.graph_eq, ?_, ?_, ?_⟩
  · intro g
    cases hhead : (faultyLines t).head? with
    | none => rw [hstrict (List.head?_eq_none_iff.mp hhead)]
    | some i => simp [strictGraph_of_head? hhead, strictGraph_of_head? (h.faultyLines_eq ▸ hhead)]
  · intro number
    rw [exists_strictGraph_eq_unrecognizedLine_iff, exists_strictGraph_eq_unrecognizedLine_iff,
      h.faultyLines_eq]
  · cases hhead : (faultyLines t).head? with
    | none => rw [hstrict (List.head?_eq_none_iff.mp hhead)]
    | some i => simp [strictGraph_of_head? hhead, strictGraph_of_head? (h.faultyLines_eq ▸ hhead)]

/-- An accent behind its letter, a space that is replaced by another one, and a line that is not
recognized: what the strict reading reports about one spelling holds of the other. -/
theorem third_line_reported_in_both_spellings :
    CanonicallyEquivalent "e\u0301 --> B\n\u2000// \u212b\nA ->".toText
      "\u00e9 --> B\n\u2002// \u00c5\nA ->".toText ∧
    graph "e\u0301 --> B\n\u2000// \u212b\nA ->".toText
      = graph "\u00e9 --> B\n\u2002// \u00c5\nA ->".toText ∧
    ∃ content, strictGraph "\u00e9 --> B\n\u2002// \u00c5\nA ->".toText
      = .error (.unrecognizedLine 3 content) := by
  have h : CanonicallyEquivalent "e\u0301 --> B\n\u2000// \u212b\nA ->".toText
      "\u00e9 --> B\n\u2002// \u00c5\nA ->".toText := by decide +kernel
  have hreport : strictGraph "e\u0301 --> B\n\u2000// \u212b\nA ->".toText
      = .error (.unrecognizedLine 3 "A ->".toText) := by decide +kernel
  obtain ⟨-, -, hgraph, -, hnumber, -⟩ := readings_of_canonicallyEquivalent h
  exact ⟨h, hgraph, (hnumber 3).mp ⟨_, hreport⟩⟩

end Diagram

end ArrowNotation
