/-
# Faults of a text in parts

Two texts put one after the other have the faults of both.  The faults of the first keep their
numbers, because its lines stay where they are; those of the second move down by the number of
lines of the first, and that is all that happens to them.

* **Lines.**  A line of the two texts in a row is a line of one of them, found under its own number
  there (`Text.lineAt_append_left`, `Text.lineAt_append_right`).  So the faults of the whole are
  known from the faults of the parts (`faultyLines_append_lineFeed`).
* **Readings.**  The diagnostics are a list with an entry for each fault, so they are put together
  as the faults are.  The strict reading looks at the first fault only: any fault of the first text
  wins over those of the second, and any fault wins over a missing node.

The number of lines is one more than the number of line feeds, so the empty text counts as one
line, and a text that ends in a line feed as one line more than it seems to have.
-/
import ArrowNotation.Proofs.Diagram.Faults
import ArrowNotation.Proofs.Graph.Merge

namespace ArrowNotation

/-! ## 1. Lines by number -/

theorem Text.length_lines_append (t u : Text) :
    (lines (t ++ lineFeed :: u)).length = (lines t).length + (lines u).length := by
  rw [lines_append_lineFeed, List.length_append]

theorem Text.lineAt_append_left {t : Text} (u : Text) {i : Nat} (h : i < (lines t).length) :
    lineAt (t ++ lineFeed :: u) i = t.lineAt i := by
  rw [lineAt, lineAt, lines_append_lineFeed, List.getD_eq_getElem?_getD,
    List.getD_eq_getElem?_getD, List.getElem?_append_left h]

theorem Text.lineAt_append_right (t u : Text) (i : Nat) :
    lineAt (t ++ lineFeed :: u) ((lines t).length + i) = u.lineAt i := by
  rw [lineAt, lineAt, lines_append_lineFeed, List.getD_eq_getElem?_getD,
    List.getD_eq_getElem?_getD, List.getElem?_append_right (by omega), Nat.add_sub_cancel_left]

namespace Diagram

/-! ## 2. Faults -/

/-- **The faults of two texts in a row.** -/
theorem faultyLines_append_lineFeed (t u : Text) :
    faultyLines (t ++ Text.lineFeed :: u)
      = faultyLines t ++ (faultyLines u).map fun i => (Text.lines t).length + i := by
  rw [faultyLines, Text.length_lines_append, List.range_add, List.filter_append, List.filter_map]
  congr 1
  · refine List.filter_congr ?_
    intro i hi
    rw [Text.lineAt_append_left u (List.mem_range.mp hi)]
  · congr 1
    refine List.filter_congr ?_
    intro i _
    rw [Function.comp_apply, Text.lineAt_append_right]

/-! ## 3. Diagnostics -/

/-- **The diagnostics of two texts in a row**: those of the first as they are, and those of the
second moved down. -/
theorem diagnostics_append_lineFeed (t u : Text) :
    diagnostics (t ++ Text.lineFeed :: u)
      = diagnostics t
        ++ (diagnostics u).map fun d => { d with line := (Text.lines t).length + d.line } := by
  rw [diagnostics_eq, diagnostics_eq, diagnostics_eq, faultyLines_append_lineFeed,
    List.map_append, List.map_map, List.map_map]
  congr 1
  · refine List.map_congr_left ?_
    intro i hi
    rw [Text.lineAt_append_left u (mem_faultyLines_iff.mp hi).1]
  · refine List.map_congr_left ?_
    intro i _
    rw [Function.comp_apply, Function.comp_apply, Text.lineAt_append_right]
    rfl

/-! ## 4. The strict reading -/

theorem forall_strictGraph_ne_iff {text : Text} :
    (∀ number content, strictGraph text ≠ .error (.unrecognizedLine number content)) ↔
      faultyLines text = [] := by
  constructor
  · intro h
    cases hhead : (faultyLines text).head? with
    | none => exact List.head?_eq_none_iff.mp hhead
    | some i => exact absurd (strictGraph_of_head? hhead) (h _ _)
  · intro hnil number content h
    obtain ⟨i, hi, -⟩ := strictGraph_eq_unrecognizedLine_iff.mp h
    rw [hnil] at hi
    exact absurd hi (by simp)

/-- **A report about the first text stands.** -/
theorem strictGraph_append_of_left {t : Text} (u : Text) {number : Nat} {content : Text}
    (h : strictGraph t = .error (.unrecognizedLine number content)) :
    strictGraph (t ++ Text.lineFeed :: u) = .error (.unrecognizedLine number content) := by
  obtain ⟨i, hi, rfl, rfl⟩ := strictGraph_eq_unrecognizedLine_iff.mp h
  have hline := (mem_faultyLines_iff.mp (List.mem_of_head? hi)).1
  have hhead : (faultyLines (t ++ Text.lineFeed :: u)).head? = some i := by
    rw [faultyLines_append_lineFeed, List.head?_append, hi, Option.some_or]
  rw [strictGraph_of_head? hhead, Text.lineAt_append_left u hline]

/-- **Behind a text without faults a report about the second text moves down.** -/
theorem strictGraph_append_of_right {t u : Text} (ht : faultyLines t = []) {number : Nat}
    {content : Text} (h : strictGraph u = .error (.unrecognizedLine number content)) :
    strictGraph (t ++ Text.lineFeed :: u)
      = .error (.unrecognizedLine ((Text.lines t).length + number) content) := by
  obtain ⟨i, hi, rfl, rfl⟩ := strictGraph_eq_unrecognizedLine_iff.mp h
  have hhead : (faultyLines (t ++ Text.lineFeed :: u)).head?
      = some ((Text.lines t).length + i) := by
    rw [faultyLines_append_lineFeed, ht, List.nil_append, List.head?_map, hi, Option.map_some]
  rw [strictGraph_of_head? hhead, Text.lineAt_append_right, Nat.add_assoc]

theorem isEmpty_graph_append_iff (t u : Text) :
    (graph (t ++ Text.lineFeed :: u)).isEmpty = true ↔
      (graph t).isEmpty = true ∧ (graph u).isEmpty = true := by
  simp only [graph, Graph.isEmpty_ofEdgeLines_iff, edgeLines_append_lineFeed,
    List.append_eq_nil_iff]

/-- Without faults a missing node is what the strict reading asks about. -/
theorem strictGraph_eq_noNodes_iff {text : Text} (h : faultyLines text = []) :
    strictGraph text = .error .noNodes ↔ (graph text).isEmpty = true := by
  rw [strictGraph_of_faultyLines_eq_nil h]
  cases (graph text).isEmpty <;> simp

/-- **Faults are local to their part of a text.**  A text is put behind another one, whose number
of lines is `n`.

* The diagnostics are those of the first text and then those of the second, with `n` added to the
  number of each line and nothing else changed.
* If the strict reading reports a line of the first text, it reports the same about both.
* Otherwise, if it reports a line of the second text, it reports that line with `n` added to its
  number, also in the wording.
* Otherwise it misses nodes in both exactly when it does so in each of them, and else it gives the
  graph of both. -/
theorem faults_are_local (t u : Text) :
    diagnostics (t ++ Text.lineFeed :: u)
      = diagnostics t
        ++ (diagnostics u).map (fun d => { d with line := (Text.lines t).length + d.line }) ∧
    (∀ number content, strictGraph t = .error (.unrecognizedLine number content) →
      strictGraph (t ++ Text.lineFeed :: u) = .error (.unrecognizedLine number content)) ∧
    ((∀ number content, strictGraph t ≠ .error (.unrecognizedLine number content)) →
      (∀ number content, strictGraph u = .error (.unrecognizedLine number content) →
        strictGraph (t ++ Text.lineFeed :: u)
            = .error (.unrecognizedLine ((Text.lines t).length + number) content) ∧
          (ReadError.unrecognizedLine ((Text.lines t).length + number) content).message
            = "Syntax error on line ".toText
              ++ Text.ofNat ((Text.lines t).length + number) ++ ": ".toText ++ content) ∧
      ((∀ number content, strictGraph u ≠ .error (.unrecognizedLine number content)) →
        (strictGraph (t ++ Text.lineFeed :: u) = .error .noNodes ↔
          strictGraph t = .error .noNodes ∧ strictGraph u = .error .noNodes) ∧
        (strictGraph (t ++ Text.lineFeed :: u) ≠ .error .noNodes →
          strictGraph (t ++ Text.lineFeed :: u)
            = .ok (graph (t ++ Text.lineFeed :: u))))) := by
  refine ⟨diagnostics_append_lineFeed t u, fun _ _ => strictGraph_append_of_left u, ?_⟩
  intro ht
  have htnil := forall_strictGraph_ne_iff.mp ht
  constructor
  · intro number content hu
    exact ⟨strictGraph_append_of_right htnil hu, rfl⟩
  · intro hu
    have hunil := forall_strictGraph_ne_iff.mp hu
    have hnil : faultyLines (t ++ Text.lineFeed :: u) = [] := by
      rw [faultyLines_append_lineFeed, htnil, hunil, List.map_nil, List.append_nil]
    have hempty := strictGraph_eq_noNodes_iff hnil
    constructor
    · rw [hempty, strictGraph_eq_noNodes_iff htnil, strictGraph_eq_noNodes_iff hunil]
      exact isEmpty_graph_append_iff t u
    · intro hne
      have hsome : ¬ (graph (t ++ Text.lineFeed :: u)).isEmpty = true := fun h =>
        hne (hempty.mpr h)
      rw [strictGraph_of_faultyLines_eq_nil hnil, if_neg hsome]

-- The first text ends in a line feed and the second begins with one, so both have an empty line.
example : (diagnostics ("A --> B\n".toText ++ Text.lineFeed :: "\nC ->".toText)).map Diagnostic.line
    = [3] := by
  decide +kernel

end Diagram

end ArrowNotation
