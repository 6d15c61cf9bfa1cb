/-
# What the readings see of a line

Every reading of a text cuts it into lines and looks at each line only after trimming it: for its
kind, for its meaning, and for what is quoted from it.  So two texts whose lines are the same after
trimming read the same (`graph_congr`, `trace_congr`, `strictGraph_congr`, `summary?_congr`,
`description_congr`).

The diagnostics are the one reading that measures.  They end a column range behind the last
character of a line that is not blank, counted from the beginning of the line, so for them the
blanks at the beginning count and only those at the end do not (`diagnostics_congr`).
-/
import ArrowNotation.Diagram.Editor
import ArrowNotation.Diagram.Strict
import ArrowNotation.Diagram.Trace
import ArrowNotation.Proofs.Text.Trimming
import Mathlib.Data.List.Basic

namespace ArrowNotation

/-! ## 1. One line -/

@[simp] theorem LineKind.ofLine_trim (line : Text) : ofLine (Text.trim line) = ofLine line := by
  simp only [ofLine, Text.trim_trim]

@[simp] theorem LineMeaning.ofLine_trim (line : Text) : ofLine (Text.trim line) = ofLine line := by
  simp only [ofLine, LineKind.ofLine_trim, Text.trim_trim]

theorem isWellFormedLine_congr {line other : Text} (h : Text.trim line = Text.trim other) :
    isWellFormedLine line = isWellFormedLine other := by
  rw [isWellFormedLine, isWellFormedLine, ← LineMeaning.ofLine_trim line, h,
    LineMeaning.ofLine_trim]

theorem isWellFormedLine_trimRight (line : Text) :
    isWellFormedLine (Text.trimRight line) = isWellFormedLine line :=
  isWellFormedLine_congr (Text.trim_trimRight line)

namespace Diagram

theorem TraceEvent.ofLine?_trim (number : Nat) (line : Text) :
    ofLine? number (Text.trim line) = ofLine? number line := by
  simp only [ofLine?, LineMeaning.ofLine_trim, Text.trim_trim]

theorem Diagnostic.ofLine_trimRight (index : Nat) (line : Text) :
    ofLine index (Text.trimRight line) = ofLine index line := by
  simp only [ofLine, Text.trim_trimRight, Text.trimRight_trimRight]

/-! ## 2. Texts with the same trimmed lines -/

section Trimmed

variable {t u : Text} (h : (Text.lines t).map Text.trim = (Text.lines u).map Text.trim)

/-- A function of the trimmed line gives the same results for both texts, line by line. -/
theorem filterMap_congr_trim {β : Type} {f : Text → Option β}
    (hf : ∀ line, f (Text.trim line) = f line) (lines : List Text) :
    lines.filterMap f = (lines.map Text.trim).filterMap f := by
  rw [List.filterMap_map]
  exact List.filterMap_congr fun line _ => (hf line).symm

theorem firstUnrecognized?_map_trim : ∀ (number : Nat) (lines : List Text),
    firstUnrecognized? number (lines.map Text.trim) = firstUnrecognized? number lines
  | _, [] => rfl
  | number, line :: lines => by
    rw [List.map_cons, firstUnrecognized?, firstUnrecognized?, LineMeaning.ofLine_trim,
      Text.trim_trim, firstUnrecognized?_map_trim (number + 1) lines]

/-- The notes of the trace see trimmed lines. -/
theorem filterMap_ofLine?_map_trim (lines : List Text) :
    (lines.zipIdx 1).filterMap (fun (line, number) => TraceEvent.ofLine? number line)
      = ((lines.map Text.trim).zipIdx 1).filterMap
          fun (line, number) => TraceEvent.ofLine? number line := by
  rw [List.zipIdx_map, List.filterMap_map]
  refine List.filterMap_congr ?_
  rintro ⟨line, number⟩ -
  exact (TraceEvent.ofLine?_trim number line).symm

include h

theorem edgeLines_congr : edgeLines t = edgeLines u := by
  have hf : ∀ line, (LineMeaning.ofLine (Text.trim line)).edge? = (LineMeaning.ofLine line).edge? :=
    fun line => by rw [LineMeaning.ofLine_trim]
  rw [edgeLines, edgeLines, filterMap_congr_trim hf, h, ← filterMap_congr_trim hf]

/-- **The graph sees trimmed lines.** -/
theorem graph_congr : graph t = graph u := by rw [graph, graph, edgeLines_congr h]

/-- **The trace sees trimmed lines**, with their numbers. -/
theorem trace_congr : trace t = trace u := by
  simp only [trace, graph_congr h]
  rw [filterMap_ofLine?_map_trim, h, ← filterMap_ofLine?_map_trim]

/-- **The strict reading sees trimmed lines**, also for what it reports. -/
theorem strictGraph_congr : strictGraph t = strictGraph u := by
  have hfirst : firstUnrecognized? 1 (Text.lines t) = firstUnrecognized? 1 (Text.lines u) := by
    rw [← firstUnrecognized?_map_trim, h, firstUnrecognized?_map_trim]
  simp only [strictGraph, hfirst, graph_congr h]

/-- **The summary sees trimmed lines.** -/
theorem summary?_congr : summary? t = summary? u := by simp only [summary?, graph_congr h]

/-- **The description sees trimmed lines.** -/
theorem description_congr : description t = description u := by
  have hfind : ∀ text : Text, description text
      = ((((Text.lines text).map Text.trim).find? fun line =>
          LineKind.ofLine line = .comment).map fun line =>
            Text.trim (line.drop LineKind.commentMark.length)).getD [] := by
    intro text
    rw [description, List.find?_map, Option.map_map]
    simp only [Function.comp_def, LineKind.ofLine_trim]
    cases (Text.lines text).find? fun line => LineKind.ofLine line = .comment <;> rfl
  rw [hfind, hfind, h]

end Trimmed

/-! ## 3. Texts with the same lines up to blanks at their ends -/

theorem diagnostics_eq_map_trimRight (text : Text) :
    diagnostics text
      = ((Text.lines text).map Text.trimRight).zipIdx.filterMap fun (line, index) =>
          if isWellFormedLine line then none else some (Diagnostic.ofLine index line) := by
  rw [diagnostics, List.zipIdx_map, List.filterMap_map]
  refine List.filterMap_congr ?_
  rintro ⟨line, index⟩ -
  simp only [Function.comp_apply, Prod.map, isWellFormedLine_trimRight,
    Diagnostic.ofLine_trimRight, id]

/-- **The diagnostics see lines without the blanks at their ends.** -/
theorem diagnostics_congr {t u : Text}
    (h : (Text.lines t).map Text.trimRight = (Text.lines u).map Text.trimRight) :
    diagnostics t = diagnostics u := by
  rw [diagnostics_eq_map_trimRight, diagnostics_eq_map_trimRight, h]

theorem map_trim_of_map_trimRight {ls ks : List Text}
    (h : ls.map Text.trimRight = ks.map Text.trimRight) : ls.map Text.trim = ks.map Text.trim := by
  have hfactor : ∀ ls : List Text, ls.map Text.trim = (ls.map Text.trimRight).map Text.trim := by
    intro ls
    rw [List.map_map]
    exact List.map_congr_left fun line _ => (Text.trim_trimRight line).symm
  rw [hfactor ls, hfactor ks, h]

end Diagram

end ArrowNotation
