/-
# Every reading sees the same faults

A text is judged in four places, each with a walk over the lines of its own: line by line, by
the diagnostics for an editor, by the reading that notes what it passes over, and by the strict
reading.  The first two count lines from zero and the last two from one.

The common measure is `faultyLines`, the numbers of the lines that are not well formed.  Each
walk is brought into the form "a function of this list" (`diagnostics_eq`, `trace_eq`,
`strictGraph_eq_unrecognizedLine_iff`), so whatever one reading says about a fault, the others
say as well.  What is left for the graph is a count: every candidate writes an edge or is at
fault (`length_edgeLines_add_length_faultyLines`).
-/
import ArrowNotation.Diagram.Editor
import ArrowNotation.Diagram.Strict
import ArrowNotation.Diagram.Trace
import ArrowNotation.Proofs.Line.Meaning
import ArrowNotation.Proofs.Registry.Mentions

namespace ArrowNotation

/-! ## 1. Lines by number -/

/-- The line of a text with a given number, counted from zero; behind the last line there is
only the empty text. -/
def Text.lineAt (t : Text) (i : Nat) : Text := (lines t).getD i []

theorem Text.lineAt_eq_getElem {t : Text} {i : Nat} (h : i < (lines t).length) :
    t.lineAt i = (lines t)[i] := by
  rw [lineAt, List.getD_eq_getElem?_getD, List.getElem?_eq_getElem h, Option.getD_some]

theorem Text.map_lineAt_range (t : Text) :
    (List.range (lines t).length).map t.lineAt = lines t := by
  refine List.ext_getElem (by simp) ?_
  intro i _ h
  rw [List.getElem_map, List.getElem_range, lineAt_eq_getElem h]

/-- Lines with their numbers, counted from any start. -/
theorem Text.zipIdx_lines (t : Text) (start : Nat) :
    (lines t).zipIdx start
      = (List.range (lines t).length).map fun i => (t.lineAt i, start + i) := by
  refine List.ext_getElem (by simp) ?_
  intro i _ h
  have hi : i < (lines t).length := by simpa using h
  rw [List.getElem_zipIdx, List.getElem_map, List.getElem_range, lineAt_eq_getElem hi]

namespace Diagram

/-! ## 2. The faults of a text -/

/-- The numbers of the lines that are not well formed, counted from zero, in ascending order. -/
def faultyLines (text : Text) : List Nat :=
  (List.range (Text.lines text).length).filter fun i => !isWellFormedLine (text.lineAt i)

theorem mem_faultyLines_iff {text : Text} {i : Nat} :
    i ∈ faultyLines text ↔
      i < (Text.lines text).length ∧ isWellFormedLine (text.lineAt i) = false := by
  simp [faultyLines]

theorem trim_lineAt_ne_nil {text : Text} {i : Nat} (h : i ∈ faultyLines text) :
    Text.trim (text.lineAt i) ≠ [] :=
  trim_ne_nil_of_isWellFormedLine_eq_false (mem_faultyLines_iff.mp h).2

/-- A walk that keeps something about each line at fault is a function of the faults. -/
theorem filterMap_zipIdx_lines {β : Type} (text : Text) (start : Nat) (f : Nat → Text → β) :
    ((Text.lines text).zipIdx start).filterMap
        (fun (line, i) => if isWellFormedLine line then none else some (f i line))
      = (faultyLines text).map fun i => f (start + i) (text.lineAt i) := by
  rw [Text.zipIdx_lines, List.filterMap_map, faultyLines]
  induction List.range (Text.lines text).length with
  | nil => rfl
  | cons i rest ih =>
    rw [List.filterMap_cons, List.filter_cons, ih]
    cases h : isWellFormedLine (text.lineAt i) <;> simp [h]

/-! ## 3. The readings -/

/-- **One diagnostic for each fault, in order.** -/
theorem diagnostics_eq (text : Text) :
    diagnostics text = (faultyLines text).map fun i => Diagnostic.ofLine i (text.lineAt i) := by
  rw [diagnostics, filterMap_zipIdx_lines text 0 Diagnostic.ofLine]
  simp only [Nat.zero_add]

theorem line_mem_faultyLines {text : Text} {diagnostic : Diagnostic}
    (h : diagnostic ∈ diagnostics text) : diagnostic.line ∈ faultyLines text := by
  rw [diagnostics_eq] at h
  obtain ⟨i, hi, rfl⟩ := List.mem_map.mp h
  exact hi

theorem TraceEvent.ofLine?_eq (lineNumber : Nat) (line : Text) :
    TraceEvent.ofLine? lineNumber line =
      if isWellFormedLine line then none else some (.passedOver lineNumber (Text.trim line)) := by
  unfold TraceEvent.ofLine? isWellFormedLine
  cases LineMeaning.ofLine line <;> rfl

/-- **One note for each fault, in order, and then the size of the graph.** -/
theorem trace_eq (text : Text) :
    trace text =
      ((faultyLines text).map fun i => TraceEvent.passedOver (i + 1) (Text.trim (text.lineAt i)))
        ++ [.finished (graph text).nodes.length (graph text).edges.length] := by
  have hnotes := filterMap_zipIdx_lines text 1
    fun i line => TraceEvent.passedOver i (Text.trim line)
  simp only [Nat.add_comm 1] at hnotes
  rw [← hnotes]
  simp only [trace, TraceEvent.ofLine?_eq]

/-- The search of the strict reading, as a search through numbered lines. -/
theorem firstUnrecognized?_eq_find? : ∀ (number : Nat) (lines : List Text),
    firstUnrecognized? number lines =
      ((lines.zipIdx number).find? fun (line, _) => !isWellFormedLine line).map
        fun (line, i) => (i, Text.trim line)
  | _, [] => rfl
  | number, line :: others => by
    have ih := firstUnrecognized?_eq_find? (number + 1) others
    unfold firstUnrecognized?
    rw [List.zipIdx_cons]
    cases h : LineMeaning.ofLine line with
    | unrecognized => simp [isWellFormedLine, h]
    | nothing => simp [isWellFormedLine, h, ih]
    | edge w => simp [isWellFormedLine, h, ih]

/-- **The strict reading stops at the first fault.** -/
theorem firstUnrecognized?_lines (text : Text) :
    firstUnrecognized? 1 (Text.lines text) =
      (faultyLines text).head?.map fun i => (i + 1, Text.trim (text.lineAt i)) := by
  rw [firstUnrecognized?_eq_find?, Text.zipIdx_lines, List.find?_map, Option.map_map,
    faultyLines, List.head?_filter]
  simp only [Function.comp_def, Nat.add_comm 1]

/-- With a fault the strict reading reports the first one. -/
theorem strictGraph_of_head? {text : Text} {i : Nat} (h : (faultyLines text).head? = some i) :
    strictGraph text = .error (.unrecognizedLine (i + 1) (Text.trim (text.lineAt i))) := by
  simp only [strictGraph, firstUnrecognized?_lines, h, Option.map_some]

theorem strictGraph_of_faultyLines_eq_nil {text : Text} (h : faultyLines text = []) :
    strictGraph text = if (graph text).isEmpty then .error .noNodes else .ok (graph text) := by
  simp only [strictGraph, firstUnrecognized?_lines, h, List.head?_nil, Option.map_none]

/-- **The strict reading reports a line exactly when it is the first fault.** -/
theorem strictGraph_eq_unrecognizedLine_iff {text : Text} {number : Nat} {content : Text} :
    strictGraph text = .error (.unrecognizedLine number content) ↔
      ∃ i, (faultyLines text).head? = some i ∧ number = i + 1 ∧
        content = Text.trim (text.lineAt i) := by
  cases h : (faultyLines text).head? with
  | none =>
    rw [strictGraph_of_faultyLines_eq_nil (List.head?_eq_none_iff.mp h)]
    cases (graph text).isEmpty <;> simp
  | some i =>
    rw [strictGraph_of_head? h]
    simp [eq_comm]

/-- **The first diagnostic is what the strict reading reports.** -/
theorem strictGraph_of_diagnostics_cons {text : Text} {first : Diagnostic}
    {rest : List Diagnostic} (h : diagnostics text = first :: rest) :
    strictGraph text
      = .error (.unrecognizedLine (first.line + 1) (Text.trim (text.lineAt first.line))) := by
  rw [diagnostics_eq, List.map_eq_cons_iff] at h
  obtain ⟨i, others, hfaults, rfl, -⟩ := h
  exact strictGraph_of_head? (i := i) (by rw [hfaults, List.head?_cons])

/-- **Without diagnostics the strict reading asks for a node.** -/
theorem strictGraph_of_diagnostics_eq_nil {text : Text} (h : diagnostics text = []) :
    strictGraph text = if (graph text).isEmpty then .error .noNodes else .ok (graph text) := by
  rw [diagnostics_eq, List.map_eq_nil_iff] at h
  exact strictGraph_of_faultyLines_eq_nil h

/-! ## 4. Counting candidates -/

/-- The candidates among the lines of a text. -/
def candidateCount (text : Text) : Nat :=
  (Text.lines text).countP fun line => LineKind.ofLine line = .candidate

/-- A candidate writes an edge or is at fault, and no other line is either. -/
theorem isSome_edge?_add_fault (line : Text) :
    ((if (LineMeaning.ofLine line).edge?.isSome = true then 1 else 0)
        + if (!isWellFormedLine line) = true then 1 else 0)
      = if decide (LineKind.ofLine line = .candidate) = true then 1 else 0 := by
  by_cases hk : LineKind.ofLine line = .candidate
  · cases hw : EdgeLine.ofLine? (Text.trim line) with
    | none =>
      have hm := LineMeaning.ofLine_eq_unrecognized_iff.mpr ⟨hk, hw⟩
      simp [isWellFormedLine, hm, LineMeaning.edge?, hk]
    | some w =>
      have hm := LineMeaning.ofLine_eq_edge_iff.mpr ⟨hk, hw⟩
      simp [isWellFormedLine, hm, LineMeaning.edge?, hk]
  · have hm := LineMeaning.ofLine_eq_nothing hk
    simp [isWellFormedLine, hm, LineMeaning.edge?, hk]

theorem countP_edge?_add_countP_fault : ∀ lines : List Text,
    (lines.countP fun line => (LineMeaning.ofLine line).edge?.isSome)
        + lines.countP (fun line => !isWellFormedLine line)
      = lines.countP fun line => LineKind.ofLine line = .candidate
  | [] => rfl
  | line :: others => by
    have ih := countP_edge?_add_countP_fault others
    have hline := isSome_edge?_add_fault line
    rw [List.countP_cons, List.countP_cons, List.countP_cons]
    omega

theorem length_faultyLines (text : Text) :
    (faultyLines text).length = (Text.lines text).countP fun line => !isWellFormedLine line := by
  rw [faultyLines, ← List.countP_eq_length_filter]
  conv => rhs; rw [← Text.map_lineAt_range text]
  rw [List.countP_map]
  rfl

/-- **There are no diagnostics exactly when every line is well formed.** -/
theorem diagnostics_eq_nil_iff {text : Text} :
    diagnostics text = [] ↔ ∀ line ∈ Text.lines text, isWellFormedLine line = true := by
  rw [diagnostics_eq, List.map_eq_nil_iff, ← List.length_eq_zero_iff, length_faultyLines,
    List.countP_eq_zero]
  simp

/-- **Every candidate writes an edge or is at fault.** -/
theorem length_edgeLines_add_length_faultyLines (text : Text) :
    (edgeLines text).length + (faultyLines text).length = candidateCount text := by
  rw [length_faultyLines, edgeLines, candidateCount, List.length_filterMap_eq_countP,
    countP_edge?_add_countP_fault]

/-- **Without faults the graph is empty exactly when there are only blanks and comments.** -/
theorem isEmpty_graph_iff_of_faultyLines_eq_nil {text : Text} (h : faultyLines text = []) :
    (graph text).isEmpty = true ↔
      ∀ line ∈ Text.lines text,
        LineKind.ofLine line = .blank ∨ LineKind.ofLine line = .comment := by
  have hcount := length_edgeLines_add_length_faultyLines text
  rw [h, List.length_nil, Nat.add_zero] at hcount
  rw [graph, Graph.isEmpty_ofEdgeLines_iff, ← List.length_eq_zero_iff, hcount, candidateCount,
    List.countP_eq_zero]
  refine forall₂_congr ?_
  intro line _
  cases LineKind.ofLine line <;> simp

/-! ## 5. Agreement -/

/-- **All readings of a text agree on its faults.**

* The diagnostics are one for each fault, in order, with its number.
* The log holds one record for each fault, in order, with its number counted from one and its
  trimmed text, and then one record for the graph.
* The strict reading reports a line exactly when there is a fault, and then it is the first
  fault, with its number counted from one and its trimmed text, which is not empty.
* Without faults the strict reading complains about missing nodes exactly when every line is
  blank or a comment, and gives the graph of the text otherwise.
* The edges of the graph are as many as the candidates without the faults. -/
theorem readings_agree_on_faults (text : Text) :
    (diagnostics text).map Diagnostic.line = faultyLines text ∧
    (trace text =
        ((faultyLines text).map fun i =>
          TraceEvent.passedOver (i + 1) (Text.trim (text.lineAt i)))
          ++ [.finished (graph text).nodes.length (graph text).edges.length] ∧
      log text =
        ((faultyLines text).map fun i =>
          ⟨.debug, "Skipping unrecognized line ".toText ++ Text.ofNat (i + 1) ++ ": ".toText
            ++ Text.quoted (Text.trim (text.lineAt i))⟩)
          ++ [⟨.debug, (TraceEvent.finished (graph text).nodes.length
            (graph text).edges.length).message⟩]) ∧
    (((∃ number content, strictGraph text = .error (.unrecognizedLine number content)) ↔
        faultyLines text ≠ []) ∧
      ∀ number content, strictGraph text = .error (.unrecognizedLine number content) →
        ∃ i, (faultyLines text).head? = some i ∧ number = i + 1 ∧
          content = Text.trim (text.lineAt i) ∧ content ≠ []) ∧
    (faultyLines text = [] →
      (strictGraph text = .error .noNodes ↔
        ∀ line ∈ Text.lines text, LineKind.ofLine line = .blank ∨ LineKind.ofLine line = .comment) ∧
      ((∃ line ∈ Text.lines text, LineKind.ofLine line = .candidate) →
        strictGraph text = .ok (graph text))) ∧
    (graph text).edges.length + (faultyLines text).length = candidateCount text := by
  refine ⟨?_, ⟨trace_eq text, ?_⟩, ⟨?_, ?_⟩, ?_, ?_⟩
  · rw [diagnostics_eq, List.map_map]
    exact List.map_id' _
  · rw [log, trace_eq, List.map_append, List.map_map]
    rfl
  · simp only [strictGraph_eq_unrecognizedLine_iff]
    constructor
    · rintro ⟨-, -, i, hi, -⟩ hnil
      rw [hnil] at hi
      exact absurd hi (by simp)
    · intro hne
      obtain ⟨i, rest, hf⟩ := List.exists_cons_of_ne_nil hne
      exact ⟨_, _, i, by rw [hf, List.head?_cons], rfl, rfl⟩
  · intro number content hreport
    obtain ⟨i, hi, hnumber, hcontent⟩ := strictGraph_eq_unrecognizedLine_iff.mp hreport
    refine ⟨i, hi, hnumber, hcontent, ?_⟩
    rw [hcontent]
    exact trim_lineAt_ne_nil (List.mem_of_head? hi)
  · intro hf
    have hempty := isEmpty_graph_iff_of_faultyLines_eq_nil hf
    have hstrict := strictGraph_of_faultyLines_eq_nil hf
    constructor
    · rw [hstrict, ← hempty]
      cases (graph text).isEmpty <;> simp
    · rintro ⟨line, hline, hk⟩
      have hne : ¬ (graph text).isEmpty = true := by
        intro h
        rcases hempty.mp h line hline with hk' | hk' <;> simp [hk'] at hk
      rw [hstrict, if_neg hne]
  · rw [length_edges_graph, length_edgeLines_add_length_faultyLines]

end Diagram

end ArrowNotation
